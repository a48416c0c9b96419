import WanRouter.Local.HandedTexts
import WanRouter.Shared.TimeText

/-!
# Reading the alerts of the poll loop

The text of an alert holds what it is about: the WAN, its new status, the second of
the change, how long the previous status lasted, the WAN that took over and the link.
A reader of the text finds all of it again, whatever the names are, if they are one
line each.
-/

namespace WanRouter

open OrderedDict EdgeDetector AlertEngine TelegramNotifier

/-- What an alert about a change tells. -/
structure WanReport where
  name : String
  status : InterfaceStatus
  second : ℤ
  /-- How many seconds the previous status lasted, if there was one. -/
  lasted : Option ℤ
  target : Option String
  linkUp : Option Bool
  deriving DecidableEq

/-! ## The reader -/

def readTitle? (line : List Char) : Option (String × InterfaceStatus) := do
  let title ← line.dropPrefix? "🔴 ".toList
  match title.dropSuffix? " DOWN".toList with
  | some name => return (String.ofList name, .down)
  | none =>
      let name ← title.dropSuffix? " RECOVERED".toList
      return (String.ofList name, .up)

def durationLabel : InterfaceStatus → String
  | .down => "Previous state: UP for "
  | _ => "Downtime: "

def readTarget? (line : List Char) : Option String :=
  (line.dropPrefix? "Failover: active on ".toList).map String.ofList

def readLinkUp? (line : List Char) : Option Bool :=
  if [String.ofList line] = linkLine (some false) then some false
  else if [String.ofList line] = linkLine (some true) then some true
  else none

/-- The change that a text tells. -/
def readWanAlert? (text : String) : Option WanReport :=
  match text.toList.splitOn '\n' with
  | title :: [] :: _router :: time :: previous :: rest => do
      let (name, status) ← readTitle? title
      let second ← readTime? (← time.dropPrefix? "Time: ".toList)
      let duration ← previous.dropPrefix? (durationLabel status).toList
      return {
        name := name
        status := status
        second := second
        lasted := readDuration? duration
        target := rest[0]?.bind readTarget?
        linkUp := rest[1]?.bind readLinkUp? }
  | _ => none

/-! ## What is read back -/

/-- The two endings of a title are told apart by their last letter. -/
theorem dropSuffix?_recovered (name : String) :
    (name ++ " RECOVERED").toList.dropSuffix? " DOWN".toList = none := by
  apply Option.eq_none_iff_forall_ne_some.mpr
  intro rest hrest
  obtain ⟨suffix, heq, hsuffix⟩ := List.dropSuffix?_eq_some_iff.mp hrest
  obtain rfl := eq_of_beq hsuffix
  have hlast := congrArg List.getLast? heq
  simp [String.toList_append, List.getLast?_append] at hlast

theorem readTitle?_wanTitle (name : String) {status : InterfaceStatus} (h : status ≠ .unknown) :
    readTitle? ("🔴 " ++ wanTitle name status).toList = some (name, status) := by
  rw [readTitle?, dropPrefix?_toList_append]
  cases status with
  | unknown => exact absurd rfl h
  | down =>
      rw [Option.bind_eq_bind, Option.bind_some, wanTitle, dropSuffix?_toList_append]
      exact congrArg some (Prod.ext String.ofList_toList rfl)
  | up =>
      have htitle : wanTitle name .up = name ++ " RECOVERED" := rfl
      rw [Option.bind_eq_bind, Option.bind_some, htitle, dropSuffix?_recovered,
        dropSuffix?_toList_append]
      exact congrArg some (Prod.ext String.ofList_toList rfl)

def lastedText (lasted : Option ℤ) : String := (lasted.map formatDuration).getD "unknown"

theorem readDuration?_lastedText (lasted : Option ℤ) :
    readDuration? (lastedText lasted).toList = lasted := by
  cases lasted with
  | none => decide
  | some n => exact readDuration?_formatDuration n

theorem readTarget?_failoverLine (target : Option String) :
    readTarget? (failoverLine target).toList = target.filter (· ≠ "") := by
  have hnone : readTarget? "Failover: no active WAN detected".toList = none := by decide
  cases target with
  | none => exact hnone
  | some name =>
      by_cases hname : name = ""
      · rw [failoverLine, if_pos hname, hnone, hname]
        rfl
      · rw [failoverLine, if_neg hname, readTarget?, dropPrefix?_toList_append, Option.map_some,
          String.ofList_toList, Option.filter_some, decide_eq_true hname, if_pos rfl]

/-- What stands below the duration. -/
def closingLines (state : WANState) (target : Option String) : List String :=
  if state.status = .down then
    failoverLine target :: (linkLine state.linkUp ++ ["Action: Monitoring at 15s intervals"])
  else ["Restored as primary gateway"]

theorem readLinkUp?_linkLine (linkUp : Option Bool) :
    ((linkLine linkUp ++ ["Action: Monitoring at 15s intervals"]).map String.toList)[0]?.bind
      readLinkUp? = linkUp := by
  cases linkUp with
  | none => decide
  | some up => cases up <;> decide

/-! ## The lines of an alert -/

def changeLines (self : AlertEngine) (now : ℤ) (state : WANState)
    (allStates : Option (Dict String WANState)) (lasted : Option ℤ) : List String :=
  ("Router: " ++ self.routerName ++ " (" ++ self.routerIp ++ ")") ::
    ("Time: " ++ strftimeUtc now) :: (durationLabel state.status ++ lastedText lasted) ::
    closingLines state (failoverTarget state allStates)

theorem previousDuration_eq {previous : Option WANState} {status : InterfaceStatus}
    (h : ∀ p ∈ previous, p.status = status) (now : ℤ) :
    previousDuration previous status now =
      lastedText (previous.map fun p ↦ totalSeconds (now - p.since)) := by
  cases previous with
  | none => rfl
  | some p =>
      rw [previousDuration, h p rfl, if_pos rfl]
      rfl

variable {self : AlertEngine} {now : ℤ} {state : WANState}
  {allStates : Option (Dict String WANState)}

/-- The WAN was last seen in the other status, if it was seen at all. -/
def Changes (previous : Option WANState) (state : WANState) : Prop :=
  state.status ≠ .unknown ∧ ∀ p ∈ previous, p.status ≠ state.status ∧ p.status ≠ .unknown

theorem message_changeAlert (now : ℤ) (allStates : Option (Dict String WANState))
    (h : Changes (self.previousWan.get? state.interface) state) :
    (self.changeAlert now state allStates).message = "\n".intercalate (changeLines self now state
      allStates ((self.previousWan.get? state.interface).map fun p ↦
        totalSeconds (now - p.since))) := by
  obtain ⟨hstatus, hprevious⟩ := h
  cases hs : state.status with
  | unknown => exact absurd hs hstatus
  | down =>
      have hup : ∀ p ∈ self.previousWan.get? state.interface, p.status = .up := by
        intro p hp
        have hne := hprevious p hp
        cases hp : p.status <;> simp_all
      rw [changeAlert, if_pos hs, downAlert, previousDuration_eq hup]
      simp only [changeLines, closingLines, hs, routerLines, durationLabel]
      rfl
  | up =>
      have hdown : ∀ p ∈ self.previousWan.get? state.interface, p.status = .down := by
        intro p hp
        have hne := hprevious p hp
        cases hp : p.status <;> simp_all
      rw [changeAlert, if_neg (by simp [hs]), recoveredAlert, previousDuration_eq hdown]
      simp only [changeLines, closingLines, hs, routerLines, durationLabel]
      rfl

theorem oneLine_lastedText (lasted : Option ℤ) : OneLine (lastedText lasted) := by
  cases lasted with
  | none => decide
  | some n => exact oneLine_formatDuration n

theorem oneLine_closingLines {target : Option String} (h : ∀ name ∈ target, OneLine name) :
    ∀ line ∈ closingLines state target, OneLine line := by
  have hfailover : OneLine (failoverLine target) := by
    cases target with
    | none => decide
    | some name =>
        rw [failoverLine]
        split_ifs
        · decide
        · exact OneLine.append (by decide) (h name rfl)
  rw [closingLines]
  split_ifs
  · rw [List.forall_mem_cons]
    exact ⟨hfailover, fun line hline ↦ (Monitoring.linesBelow_spec state.linkUp line hline).2⟩
  · decide

/-- The names that an alert shows are one line each. -/
structure Printable (engine : AlertEngine) (now : ℤ) (state : WANState)
    (allStates : Option (Dict String WANState)) : Prop where
  routerName : OneLine engine.routerName
  routerIp : OneLine engine.routerIp
  interface : OneLine state.interface
  target : ∀ name ∈ failoverTarget state allStates, OneLine name
  now : InCalendar now

theorem oneLine_changeLines (h : Printable self now state allStates) (lasted : Option ℤ) :
    ∀ line ∈ changeLines self now state allStates lasted, OneLine line := by
  have hlabel : OneLine (durationLabel state.status) := by
    cases state.status <;> decide
  simp only [changeLines, List.forall_mem_cons]
  exact ⟨Monitoring.oneLine_routerLine h.routerName h.routerIp, Monitoring.oneLine_timeLine now,
    hlabel.append (oneLine_lastedText lasted), oneLine_closingLines h.target⟩

/-! ## The round trip -/

/-- The report about a change, from what was seen before. -/
def WanReport.ofChange (now : ℤ) (previous : Option WANState) (state : WANState)
    (allStates : Option (Dict String WANState)) : WanReport where
  name := state.interface
  status := state.status
  second := now / microsPerSecond
  lasted := previous.map fun p ↦ totalSeconds (now - p.since)
  target := if state.status = .down then (failoverTarget state allStates).filter (· ≠ "") else none
  linkUp := if state.status = .down then state.linkUp else none

theorem severity_changeAlert :
    (self.changeAlert now state allStates).severity = .critical := by
  rw [changeAlert]
  split_ifs <;> rfl

theorem readClosing (state : WANState) (target : Option String) :
    ((closingLines state target).map String.toList)[0]?.bind readTarget? =
        (if state.status = .down then target.filter (· ≠ "") else none) ∧
      ((closingLines state target).map String.toList)[1]?.bind readLinkUp? =
        if state.status = .down then state.linkUp else none := by
  rw [closingLines]
  split_ifs
  · exact ⟨readTarget?_failoverLine target, readLinkUp?_linkLine state.linkUp⟩
  · decide

/-- The text of the alert about a change tells the change. -/
theorem readWanAlert?_changeAlert (h : Printable self now state allStates)
    (hchange : Changes (self.previousWan.get? state.interface) state) :
    readWanAlert? (alertText (self.changeAlert now state allStates)) =
      some (.ofChange now (self.previousWan.get? state.interface) state allStates) := by
  have hmessage := message_changeAlert now allStates hchange
  generalize hlasted : (self.previousWan.get? state.interface).map
    (fun p ↦ totalSeconds (now - p.since)) = lasted at hmessage
  have htitle := title_changeAlert self now allStates hchange.1
  have hlines := splitOn_alertText hmessage (List.cons_ne_nil _ _)
    (htitle ▸ oneLine_wanTitle h.interface _) (oneLine_changeLines h lasted)
  have hemoji : severityEmoji .critical ++ " " = "🔴 " := rfl
  rw [alertLines, severity_changeAlert, htitle, hemoji] at hlines
  obtain ⟨htarget, hlink⟩ := readClosing state (failoverTarget state allStates)
  rw [readWanAlert?, hlines, changeLines]
  simp only [List.map_cons, String.toList_empty, readTitle?_wanTitle _ hchange.1,
    Option.bind_eq_bind, Option.bind_some, dropPrefix?_toList_append, readTime?_strftimeUtc h.now,
    readDuration?_lastedText, htarget, hlink, -String.reduceToList]
  rw [← hlasted]
  rfl

/-! ## Other texts -/

theorem eq_of_readTitle? {line : List Char} {name : String} {status : InterfaceStatus}
    (h : readTitle? line = some (name, status)) :
    line = ("🔴 " ++ wanTitle name status).toList := by
  obtain ⟨title, htitle, h⟩ := Option.bind_eq_some_iff.mp h
  rw [eq_of_dropPrefix? htitle, String.toList_append]
  cases hdown : title.dropSuffix? " DOWN".toList with
  | some rest =>
      rw [hdown] at h
      cases h
      have hname : (String.ofList rest).toList = rest := String.toList_ofList
      rw [eq_of_dropSuffix? hdown, wanTitle, String.toList_append, hname]
  | none =>
      rw [hdown] at h
      obtain ⟨rest, hup, h⟩ := Option.bind_eq_some_iff.mp h
      cases h
      have hname : (String.ofList rest).toList = rest := String.toList_ofList
      have hend : wanTitle (String.ofList rest) .up = String.ofList rest ++ " RECOVERED" := rfl
      rw [eq_of_dropSuffix? hup, hend, String.toList_append, hname]

theorem announces_of_lines {text name : String} {status : InterfaceStatus}
    {rest : List (List Char)} (h : text.toList.splitOn '\n' =
      ("🔴 " ++ wanTitle name status).toList :: [] :: rest) (hne : rest ≠ []) :
    announces name status text = true := by
  have htext : ['\n'].intercalate (text.toList.splitOn '\n') = text.toList :=
    List.intercalate_splitOn '\n'
  obtain ⟨line, rest, rfl⟩ := List.exists_cons_of_ne_nil hne
  rw [h, List.intercalate_cons_cons, List.intercalate_cons_cons] at htext
  rw [announces, List.isPrefixOf_iff_prefix, ← htext, String.toList_append]
  exact ⟨_, by simp; rfl⟩

theorem announced?_ne_none {name text : String} {status : InterfaceStatus}
    (h : announces name status text = true) : announced? name text ≠ none := by
  intro hnone
  rw [announced?] at hnone
  split_ifs at hnone with hdown hup
  cases status with
  | down => exact hdown h
  | _ => exact hup h

/-- A text that is read as the alert about a change begins like one. -/
theorem announced?_of_readWanAlert? {text : String} {report : WanReport}
    (h : readWanAlert? text = some report) :
    OneLine report.name ∧ announced? report.name text ≠ none := by
  rw [readWanAlert?] at h
  split at h
  · rename_i title router time previous rest hlines
    obtain ⟨⟨name, status⟩, htitle, h⟩ := Option.bind_eq_some_iff.mp h
    obtain ⟨start, -, h⟩ := Option.bind_eq_some_iff.mp h
    obtain ⟨second, -, h⟩ := Option.bind_eq_some_iff.mp h
    obtain ⟨duration, -, h⟩ := Option.bind_eq_some_iff.mp h
    cases h
    have hline := eq_of_readTitle? htitle
    have hname : OneLine name := by
      intro hmem
      apply notMem_of_mem_splitOn (c := '\n') (hlines ▸ List.mem_cons_self)
      rw [hline, String.toList_append]
      apply List.mem_append_right
      cases status <;> simp [wanTitle, hmem]
    rw [hline] at hlines
    exact ⟨hname, announced?_ne_none (announces_of_lines hlines (List.cons_ne_nil _ _))⟩
  · cases h

end WanRouter
