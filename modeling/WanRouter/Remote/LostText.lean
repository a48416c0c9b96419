import WanRouter.Remote.AlertEngine
import WanRouter.Shared.TextParts

/-!
# Reading a LOST alert

The text of a LOST alert tells how long ago the last heartbeat came, which status each
WAN had in it and what the probe found.  The WANs stand in one line with bars between
them, so a reader finds them again if no name contains a bar or a line break.
-/

namespace WanRouter

open OrderedDict RemoteAlertEngine TelegramNotifier

/-- What a LOST alert tells. -/
structure LostReport where
  ago : ℤ
  wans : List (String × InterfaceStatus)
  probe : ProbeResult
  deriving DecidableEq

/-! ## The reader -/

def statusLabel (status : InterfaceStatus) : String := ": " ++ status.value.toUpper

def readStatus? (entry : List Char) (status : InterfaceStatus) :
    Option (String × InterfaceStatus) :=
  (entry.dropSuffix? (statusLabel status).toList).map fun name ↦ (String.ofList name, status)

/-- A part between two bars. -/
def readWan? (part : List Char) : Option (String × InterfaceStatus) := do
  let entry ← (← part.dropPrefix? " ".toList).dropSuffix? " ".toList
  [.up, .down, .unknown].findSome? (readStatus? entry)

def readWans? (line : List Char) : Option (List (String × InterfaceStatus)) :=
  if line = "  No data".toList then some []
  else ((line.tail ++ [' ']).splitOn '|').mapM readWan?

def readProbe? (text : List Char) : Option ProbeResult :=
  [.unreachable, .reachable, .disabled].find? fun result ↦ (probeStatus result).toList = text

/-- What the text of a LOST alert tells about the monitor. -/
def readLostAlert? (text : String) : Option LostReport :=
  match text.toList.splitOn '\n' with
  | [title, [], heartbeat, _, states, probe, _] => do
      if title = ("🔴 " ++ lostTitle).toList then
        let ago ← (← heartbeat.dropPrefix? "Last heartbeat: ".toList).dropSuffix? " ago".toList
        return {
          ago := ← readDuration? ago
          wans := ← readWans? states
          probe := ← readProbe? (← probe.dropPrefix? "External probe: ".toList) }
      else none
  | _ => none

/-! ## The WANs -/

theorem readStatus?_self (name : String) (status : InterfaceStatus) :
    readStatus? (name ++ statusLabel status).toList status = some (name, status) := by
  rw [readStatus?, dropSuffix?_toList_append, Option.map_some, String.ofList_toList]

theorem statusLabel_eq :
    statusLabel .up = ": UP" ∧ statusLabel .down = ": DOWN" ∧
      statusLabel .unknown = ": UNKNOWN" := by
  refine ⟨?_, ?_, ?_⟩ <;>
    exact String.toList_injective (by simp [statusLabel, InterfaceStatus.value, String.toUpper])

theorem statusLabel_plain (status : InterfaceStatus) :
    '|' ∉ (statusLabel status).toList ∧ OneLine (statusLabel status) := by
  obtain ⟨hup, hdown, hunknown⟩ := statusLabel_eq
  cases status with
  | up => rw [hup]; decide
  | down => rw [hdown]; decide
  | unknown => rw [hunknown]; decide

/-- The labels are told apart by their last four letters. -/
theorem readStatus?_of_ne (name : String) {status other : InterfaceStatus} (h : status ≠ other) :
    readStatus? (name ++ statusLabel status).toList other = none := by
  rw [readStatus?, Option.map_eq_none_iff]
  apply Option.eq_none_iff_forall_ne_some.mpr
  intro rest hrest
  have hends := congrArg (fun l ↦ l.reverse.take 4) (eq_of_dropSuffix? hrest)
  obtain ⟨hup, hdown, hunknown⟩ := statusLabel_eq
  cases status <;> cases other <;> first
    | exact h rfl
    | simp [hup, hdown, hunknown, String.toList_append] at hends

theorem readWan?_entry (name : String) (status : InterfaceStatus) :
    readWan? (" " ++ (name ++ statusLabel status) ++ " ").toList = some (name, status) := by
  rw [readWan?, String.append_assoc, dropPrefix?_toList_append, Option.bind_eq_bind,
    Option.bind_some, dropSuffix?_toList_append, Option.bind_some]
  have hother {other : InterfaceStatus} (h : status ≠ other) := readStatus?_of_ne name h
  cases status with
  | up => simp only [List.findSome?_cons, readStatus?_self]
  | down => simp only [List.findSome?_cons, hother (by decide : _ ≠ .up), readStatus?_self]
  | unknown =>
      simp only [List.findSome?_cons, hother (by decide : _ ≠ .up),
        hother (by decide : _ ≠ .down), readStatus?_self]

/-- Each entry stands between two blanks. -/
def padded (entry : String) : String := " " ++ entry ++ " "

theorem toList_bars {entries : List String} (hne : entries ≠ []) :
    (" " ++ " | ".intercalate entries ++ " ").toList =
      ("|".intercalate (entries.map padded)).toList := by
  induction entries with
  | nil => exact absurd rfl hne
  | cons entry entries ih =>
      cases entries with
      | nil => simp [padded]
      | cons next entries =>
          have hrest := ih (List.cons_ne_nil _ _)
          rw [List.map_cons, List.map_cons, String.intercalate_cons_cons,
            String.intercalate_cons_cons, String.toList_append (s := padded entry ++ "|"),
            ← List.map_cons, ← hrest]
          simp [padded]

def wanEntry (wan : String × InterfaceStatus) : String := wan.1 ++ statusLabel wan.2

def wanList (wanStates : Dict String WANState) : List (String × InterfaceStatus) :=
  wanStates.items.map fun p ↦ (p.1, p.2.status)

theorem mem_wanList_iff {wanStates : Dict String WANState} {name : String}
    {status : InterfaceStatus} : (name, status) ∈ wanList wanStates ↔
      (wanStates.get? name).map WANState.status = some status := by
  rw [wanList, List.mem_map, Option.map_eq_some_iff]
  constructor
  · rintro ⟨p, hp, heq⟩
    cases heq
    exact ⟨p.2, Dict.get?_eq_some_iff.mpr hp, rfl⟩
  · rintro ⟨state, hstate, rfl⟩
    exact ⟨(name, state), Dict.get?_eq_some_iff.mp hstate, rfl⟩

theorem mem_keys_of_mem_wanList {wanStates : Dict String WANState}
    {wan : String × InterfaceStatus} (h : wan ∈ wanList wanStates) : wan.1 ∈ wanStates.keys := by
  obtain ⟨p, hp, rfl⟩ := List.mem_map.mp h
  exact List.mem_map_of_mem hp

theorem colon_mem_entries {wans : List (String × InterfaceStatus)} (hne : wans ≠ []) :
    ':' ∈ (" | ".intercalate (wans.map wanEntry)).toList := by
  obtain ⟨wan, wans, rfl⟩ := List.exists_cons_of_ne_nil hne
  have hentry : ':' ∈ (wanEntry wan).toList := by
    simp [wanEntry, statusLabel, String.toList_append]
  cases wans with
  | nil => simpa using hentry
  | cons next wans =>
      rw [List.map_cons, List.map_cons, String.intercalate_cons_cons, String.toList_append,
        String.toList_append]
      exact List.mem_append_left _ (List.mem_append_left _ hentry)

theorem wanSummary_eq (wanStates : Dict String WANState) :
    wanSummary wanStates = if wanList wanStates = [] then "No data"
      else " | ".intercalate ((wanList wanStates).map wanEntry) := by
  have hentries : (wanStates.items.map fun p ↦ p.1 ++ ": " ++ p.2.status.value.toUpper) =
      (wanList wanStates).map wanEntry := by
    rw [wanList, List.map_map]
    apply List.map_congr_left
    exact fun p _ ↦ String.append_assoc
  rw [wanSummary, hentries]
  by_cases hne : wanList wanStates = []
  · rw [if_pos hne, hne, List.map_nil, String.intercalate_nil, if_pos rfl]
  · rw [if_neg hne, if_neg]
    intro hempty
    have hcolon := colon_mem_entries hne
    rw [hempty] at hcolon
    exact List.not_mem_nil hcolon

theorem mapM_readWan? (wans : List (String × InterfaceStatus)) :
    ((wans.map wanEntry).map fun entry ↦ (padded entry).toList).mapM readWan? = some wans := by
  induction wans with
  | nil => rfl
  | cons wan wans ih =>
      rw [List.map_cons, List.map_cons, List.mapM_cons, ih]
      have hentry : readWan? (padded (wanEntry wan)).toList = some wan :=
        readWan?_entry wan.1 wan.2
      rw [hentry]
      rfl

theorem readWans?_wanSummary {wanStates : Dict String WANState}
    (h : ∀ name ∈ wanStates.keys, '|' ∉ name.toList) :
    readWans? ("  " ++ wanSummary wanStates).toList = some (wanList wanStates) := by
  rw [wanSummary_eq]
  by_cases hnone : wanList wanStates = []
  · rw [if_pos hnone, hnone]
    rfl
  · rw [if_neg hnone]
    have hbar : ∀ entry ∈ ((wanList wanStates).map wanEntry).map padded, '|' ∉ entry.toList := by
      simp only [List.map_map, List.forall_mem_map, wanList]
      intro p hp
      have hname := h p.1 (List.mem_map_of_mem hp)
      simp [padded, wanEntry, hname, (statusLabel_plain p.2.status).1]
    have hcolon := colon_mem_entries hnone
    generalize hwans : wanList wanStates = wans at *
    have hne : wans.map wanEntry ≠ [] := by simpa using hnone
    have hsplit : ((" " ++ " | ".intercalate (wans.map wanEntry) ++ " ").toList).splitOn '|' =
        (wans.map wanEntry).map fun entry ↦ (padded entry).toList := by
      rw [toList_bars hne]
      exact (splitOn_intercalate_toList (c := '|') hbar (by simpa using hnone)).trans
        (List.map_map ..)
    have hdata : ("  " ++ " | ".intercalate (wans.map wanEntry)).toList ≠ "  No data".toList := by
      intro heq
      have hmem : ':' ∈ "  No data".toList := by
        rw [← heq, String.toList_append]
        exact List.mem_append_right _ hcolon
      exact absurd hmem (by decide)
    have htail : ("  " ++ " | ".intercalate (wans.map wanEntry)).toList.tail ++ [' '] =
        (" " ++ " | ".intercalate (wans.map wanEntry) ++ " ").toList := by
      simp [String.toList_append]
    rw [readWans?, if_neg hdata, htail, hsplit]
    exact mapM_readWan? wans

/-! ## The round trip -/

def lostLines (now lastHeartbeat : ℤ) (wanStates : Dict String WANState)
    (probeResult : ProbeResult) : List String :=
  ["Last heartbeat: " ++ (formatDuration (totalSeconds (now - lastHeartbeat)) ++ " ago"),
    "Last known state:", "  " ++ wanSummary wanStates,
    "External probe: " ++ probeStatus probeResult, "Diagnosis: " ++ diagnosis probeResult]

theorem message_createMonitorLostAlert (now lastHeartbeat : ℤ) (wanStates : Dict String WANState)
    (probeResult : ProbeResult) :
    (createMonitorLostAlert now lastHeartbeat wanStates probeResult).message =
      "\n".intercalate (lostLines now lastHeartbeat wanStates probeResult) := by
  apply String.toList_injective
  simp [createMonitorLostAlert, lostLines, String.toList_append]

/-- The names can be told apart in the text of a LOST alert. -/
structure Listable (names : List String) : Prop where
  oneLine : ∀ name ∈ names, OneLine name
  bar : ∀ name ∈ names, '|' ∉ name.toList

theorem oneLine_wanSummary {wanStates : Dict String WANState}
    (h : ∀ name ∈ wanStates.keys, OneLine name) : OneLine (wanSummary wanStates) := by
  rw [wanSummary_eq]
  split_ifs
  · decide
  · apply notMem_intercalate (by decide)
    simp only [List.forall_mem_map, wanList]
    intro p hp
    exact (h p.1 (List.mem_map_of_mem hp)).append (statusLabel_plain p.2.status).2

theorem oneLine_lostLines {now lastHeartbeat : ℤ} {wanStates : Dict String WANState}
    (h : ∀ name ∈ wanStates.keys, OneLine name) (probeResult : ProbeResult) :
    ∀ line ∈ lostLines now lastHeartbeat wanStates probeResult, OneLine line := by
  have hago : OneLine (formatDuration (totalSeconds (now - lastHeartbeat)) ++ " ago") :=
    (oneLine_formatDuration _).append (by decide)
  have hstates : OneLine ("  " ++ wanSummary wanStates) :=
    OneLine.append (by decide) (oneLine_wanSummary h)
  simp only [lostLines, List.forall_mem_cons, List.not_mem_nil, false_imp_iff, implies_true,
    and_true]
  refine ⟨OneLine.append (by decide) hago, by decide, hstates, ?_, ?_⟩
  · cases probeResult <;> decide
  · cases probeResult <;> decide

theorem readProbe?_probeStatus (result : ProbeResult) :
    readProbe? (probeStatus result).toList = some result := by
  cases result <;> decide

/-- The text of a LOST alert tells what the alert was made from. -/
theorem readLostAlert?_createMonitorLostAlert {now lastHeartbeat : ℤ}
    {wanStates : Dict String WANState} (h : Listable wanStates.keys) (probeResult : ProbeResult) :
    readLostAlert? (alertText (createMonitorLostAlert now lastHeartbeat wanStates probeResult)) =
      some ⟨totalSeconds (now - lastHeartbeat), wanList wanStates, probeResult⟩ := by
  have hlines := splitOn_alertText
    (message_createMonitorLostAlert now lastHeartbeat wanStates probeResult) (List.cons_ne_nil _ _)
    (by decide : OneLine lostTitle) (oneLine_lostLines h.oneLine probeResult)
  have htitle : severityEmoji .critical ++ " " ++ lostTitle = "🔴 " ++ lostTitle := rfl
  rw [readLostAlert?, hlines, alertLines, lostLines]
  simp only [List.map_cons, List.map_nil, String.toList_empty, createMonitorLostAlert, htitle,
    if_true, Option.bind_eq_bind, Option.bind_some, dropPrefix?_toList_append,
    dropSuffix?_toList_append, readDuration?_formatDuration, readWans?_wanSummary h.bar,
    readProbe?_probeStatus, -String.reduceToList]
  rfl

end WanRouter
