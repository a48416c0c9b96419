import WanRouter.Lib.Simulation
import WanRouter.Remote.ExternalProbe
import WanRouter.Remote.LastPayload
import WanRouter.Remote.LateHeartbeats

/-!
# Silences and their alerts

The sentinel knows the heartbeat it recorded last.  The probe always answers, so
every decision that the monitor is lost leads to an alert; then the alerts can be
counted: each silence is alerted once, if an evaluation finds it at all.
-/

namespace WanRouter

open OrderedDict HeartbeatStore RemoteAlertEngine

namespace SentinelEvent

def recorded? : SentinelEvent → Option (ℤ × HeartbeatPayload)
  | .record now payload => some (now, payload)
  | _ => none

end SentinelEvent

namespace RemoteSentinel

open SentinelEvent

/-- The heartbeats recorded in a run, each with the time of its arrival. -/
def recorded (es : List SentinelEvent) : List (ℤ × HeartbeatPayload) := es.filterMap recorded?

theorem recordTimes_eq (es : List SentinelEvent) :
    recordTimes es = (recorded es).map Prod.fst := by
  rw [recordTimes, recorded, List.map_filterMap]
  congr 1
  funext e
  cases e <;> rfl

theorem delivered_storeCalls (es : List SentinelEvent) :
    HeartbeatStore.delivered (es.flatMap storeCalls) = (recorded es).map Prod.snd := by
  induction es with
  | nil => rfl
  | cons e es ih =>
      rw [List.flatMap_cons, HeartbeatStore.delivered, List.filterMap_append,
        ← HeartbeatStore.delivered, ← HeartbeatStore.delivered, ih]
      cases e <;> rfl

variable {config : RemoteHeartbeatConfig} {telegram : TelegramNotifier}
  {s t : RemoteSentinel} {es : List SentinelEvent} {out o : List AlertEvent}

/-- The answer of the probe makes the loop hand over the LOST alert. -/
theorem probed_step {n : RemoteSentinel} {alerts : List AlertEvent} {result : ProbeResult}
    {now now' : ℤ} (hstep : step s (.probed result now now') = some (n, alerts)) :
    alerts = [s.lostAlert result now now'] := by
  cases transition_of_step hstep with
  | handLost result now now' hpos => rfl

/-- The LOST alert is built from the heartbeat recorded last. -/
theorem lostAlert_run (hrun : Machine.run step (init config telegram) es = some (s, out))
    (result : ProbeResult) (now now' : ℤ) :
    s.lostAlert result now now' =
      createMonitorLostAlert now' (((recorded es).getLast?.map Prod.fst).getD now)
        (((recorded es).getLast?.map fun p ↦ p.2.wanStates).getD ∅) result := by
  have hstates : s.store.getLastWanStates =
      ((recorded es).getLast?.map fun p ↦ p.2.wanStates).getD ∅ := by
    rw [run_store hrun, getLastWanStates_run, delivered_storeCalls, List.getLast?_map,
      Option.map_map]
    rfl
  rw [lostAlert, lastHeartbeat_run hrun, recordTimes_eq, List.getLast?_map, hstates]

end RemoteSentinel

/-! ## Counting the alerts -/

namespace WatchEvent

def recorded? : WatchEvent → Option (ℤ × HeartbeatPayload)
  | .record now payload => some (now, payload)
  | _ => none

def evaluatedAt? : WatchEvent → Option ℤ
  | .evaluate now _ _ => some now
  | _ => none

theorem recorded?_event (probe : ExternalProbe) (e : WatchEvent) :
    (e.event probe).recorded? = e.recorded? := by
  cases e <;> rfl

end WatchEvent

namespace RemoteSentinel

open WatchEvent

def lastRecorded (es : List WatchEvent) : Option (ℤ × HeartbeatPayload) :=
  (es.filterMap recorded?).getLast?

/-- The events end where a silence begins: at the start or just after a heartbeat. -/
def BeginsSilence (es : List WatchEvent) : Prop :=
  es = [] ∨ ∃ earlier now payload, es = earlier ++ [.record now payload]

/-- One of the evaluations finds that the last heartbeat is missing. -/
def FindsSilence (config : RemoteHeartbeatConfig) (last : Option (ℤ × HeartbeatPayload))
    (span : List WatchEvent) : Prop :=
  ∃ now ∈ span.filterMap evaluatedAt?, config.Silent (last.map Prod.fst) now

def isLost (alert : AlertEvent) : Bool := alert.title = lostTitle

/-- A LOST alert is decided, but the probe has not answered yet. -/
def pendingLost (s : RemoteSentinel) : ℕ := if s.position = .probing then 1 else 0

/-- The LOST alert about a monitor last heard of with this heartbeat, with the answer that the
probe gave in the span. -/
def IsLostAlertAfter (probe : ExternalProbe) (last : Option (ℤ × HeartbeatPayload))
    (span : List WatchEvent) (alert : AlertEvent) : Prop :=
  ∃ attempts now now', .probe attempts now now' ∈ span ∧
    alert = createMonitorLostAlert now' ((last.map Prod.fst).getD now)
      ((last.map fun p ↦ p.2.wanStates).getD ∅) (probe.check attempts)

/-- What holds during a silence, with what was pending when it began. -/
structure InSilence (config : RemoteHeartbeatConfig) (probe : ExternalProbe)
    (last : Option (ℤ × HeartbeatPayload)) (before : ℕ) (span : List WatchEvent)
    (s : RemoteSentinel) (out : List AlertEvent) : Prop where
  missing : ∀ now, s.store.isMissing now = true ↔ config.Silent (last.map Prod.fst) now
  lost : ∀ result now now', s.lostAlert result now now' =
    createMonitorLostAlert now' ((last.map Prod.fst).getD now)
      ((last.map fun p ↦ p.2.wanStates).getD ∅) result
  alerted : s.store.alertedMissing = true ↔ FindsSilence config last span
  count : out.countP isLost + s.pendingLost =
    before + if s.store.alertedMissing then 1 else 0
  built : ∀ alert ∈ out, isLost alert = true → IsLostAlertAfter probe last span alert

variable {config : RemoteHeartbeatConfig} {probe : ExternalProbe}
  {last : Option (ℤ × HeartbeatPayload)} {before : ℕ} {span : List WatchEvent}
  {e : WatchEvent} {s t : RemoteSentinel} {out o : List AlertEvent}

theorem findsSilence_append (config : RemoteHeartbeatConfig) (span span' : List WatchEvent) :
    FindsSilence config last (span ++ span') ↔
      FindsSilence config last span ∨ FindsSilence config last span' := by
  simp only [FindsSilence, List.filterMap_append, List.mem_append, or_and_right, exists_or]

theorem not_findsSilence (config : RemoteHeartbeatConfig) (h : e.evaluatedAt? = none) :
    ¬FindsSilence config last [e] := by
  simp [FindsSilence, h]

theorem findsSilence_evaluate (config : RemoteHeartbeatConfig) (now now' now'' : ℤ) :
    FindsSilence config last [.evaluate now now' now''] ↔
      config.Silent (last.map Prod.fst) now := by
  simp [FindsSilence, evaluatedAt?]

theorem IsLostAlertAfter.mono {span' : List WatchEvent} {alert : AlertEvent}
    (h : IsLostAlertAfter probe last span alert) (hsub : span ⊆ span') :
    IsLostAlertAfter probe last span' alert := by
  obtain ⟨attempts, now, now', hmem, halert⟩ := h
  exact ⟨attempts, now, now', hsub hmem, halert⟩

/-- A step that leaves the store as it is and evaluates no silence. -/
theorem InSilence.frame (h : InSilence config probe last before span s out)
    (hstore : t.store = s.store)
    (hsilence : FindsSilence config last [e] → s.store.alertedMissing = true)
    (hcount : o.countP isLost + t.pendingLost = s.pendingLost)
    (hbuilt : ∀ alert ∈ o, isLost alert = true → IsLostAlertAfter probe last [e] alert) :
    InSilence config probe last before (span ++ [e]) t (out ++ o) where
  missing := hstore ▸ h.missing
  lost := by
    intro result now now'
    rw [← h.lost, lostAlert, lostAlert, hstore]
  alerted := by
    rw [hstore, findsSilence_append, ← h.alerted]
    exact ⟨Or.inl, fun hor ↦ hor.elim id hsilence⟩
  count := by
    have hbefore := h.count
    rw [List.countP_append, hstore]
    omega
  built := by
    intro alert halert hlost
    rcases List.mem_append.mp halert with halert | halert
    · exact (h.built alert halert hlost).mono (List.subset_append_left _ _)
    · exact (hbuilt alert halert hlost).mono (List.subset_append_right _ _)

theorem pendingLost_of_ne (h : s.position ≠ .probing) : s.pendingLost = 0 := if_neg h

theorem InSilence.step (h : InSilence config probe last before span s out)
    (hquiet : e.recorded? = none) (hstep : s.watchStep probe e = some (t, o)) :
    InSilence config probe last before (span ++ [e]) t (out ++ o) := by
  have htrans : Transition s (e.event probe) t o := transition_of_step hstep
  cases e with
  | record now payload => cases hquiet
  | evaluate now now' now'' =>
      cases htrans with
      | decideLost _ _ _ hpos hmissing halerted =>
          have hbefore := h.count
          have hidle : s.pendingLost = 0 := pendingLost_of_ne (by simp [hpos])
          refine ⟨h.missing, h.lost, ?_, ?_, ?_⟩
          · rw [findsSilence_append, findsSilence_evaluate, ← h.missing]
            exact iff_of_true rfl (Or.inr hmissing)
          · rw [List.append_nil, pendingLost, if_pos rfl, if_pos rfl]
            rw [halerted, if_neg Bool.false_ne_true] at hbefore
            omega
          · rw [List.append_nil]
            exact fun alert halert hlost ↦
              (h.built alert halert hlost).mono (List.subset_append_left _ _)
      | handRecovered _ _ _ hpos hquiet hwas hmissing =>
          refine h.frame rfl ?_ ?_ ?_
          · rw [findsSilence_evaluate, ← h.missing]
            exact fun hsilent ↦ hquiet.resolve_left (by simp [hsilent])
          · simp [pendingLost, hpos, isLost, createMonitorRecoveredAlert,
              lostTitle, recoveredTitle]
          · intro alert halert
            obtain rfl := List.mem_singleton.mp halert
            simp [isLost, createMonitorRecoveredAlert, lostTitle, recoveredTitle]
      | idle _ _ _ hpos hquiet hidle =>
          refine h.frame rfl ?_ (by simp) (by simp)
          rw [findsSilence_evaluate, ← h.missing]
          exact fun hsilent ↦ hquiet.resolve_left (by simp [hsilent])
  | probe attempts now now' =>
      cases htrans with
      | handLost _ _ _ hpos =>
          refine h.frame rfl (fun hfinds ↦ (not_findsSilence config rfl hfinds).elim) ?_ ?_
          · simp [pendingLost, hpos, isLost, lostAlert, createMonitorLostAlert]
          · intro alert halert _
            obtain rfl := List.mem_singleton.mp halert
            exact ⟨attempts, now, now', List.mem_cons_self, h.lost _ now now'⟩
  | sent reply =>
      have hnone : ¬FindsSilence config last [.sent reply] := not_findsSilence config rfl
      cases htrans with
      | sentLost alert _ hpos =>
          refine h.frame (finishSend_store _ _ _) (fun hfinds ↦ (hnone hfinds).elim) ?_ (by simp)
          simp [pendingLost, hpos, finishSend_position]
      | sentRecovered alert _ hpos =>
          refine h.frame (finishSend_store _ _ _) (fun hfinds ↦ (hnone hfinds).elim) ?_ (by simp)
          simp [pendingLost, hpos, finishSend_position]

theorem recorded_map_event (probe : ExternalProbe) (es : List WatchEvent) :
    recorded (es.map (event probe)) = es.filterMap WatchEvent.recorded? := by
  rw [recorded, List.filterMap_map]
  congr 1
  funext e
  exact recorded?_event probe e

theorem alertedMissing_of_beginsSilence {telegram : TelegramNotifier} {es : List WatchEvent}
    (hrun : Machine.run step (init config telegram) (es.map (event probe)) = some (s, out))
    (h : BeginsSilence es) : s.store.alertedMissing = false := by
  rw [run_store hrun]
  apply alertedMissing_of_startsSilence
  rcases h with rfl | ⟨earlier, now, payload, rfl⟩
  · exact Or.inl rfl
  · refine Or.inr ⟨(earlier.map (event probe)).flatMap SentinelEvent.storeCalls, now, payload, ?_⟩
    rw [List.map_append, List.flatMap_append]
    rfl

theorem inSilence_begin {telegram : TelegramNotifier} {es : List WatchEvent}
    (hrun : Machine.run step (init config telegram) (es.map (event probe)) = some (s, out))
    (h : BeginsSilence es) :
    InSilence config probe (lastRecorded es) s.pendingLost [] s [] where
  missing := by
    intro now
    rw [isMissing_iff_silent hrun, recordTimes_eq, recorded_map_event, List.getLast?_map,
      lastRecorded]
  lost := by
    intro result now now'
    rw [lostAlert_run hrun, recorded_map_event, lastRecorded]
  alerted := by
    rw [alertedMissing_of_beginsSilence hrun h]
    exact iff_of_false Bool.false_ne_true (by simp [FindsSilence])
  count := by
    rw [alertedMissing_of_beginsSilence hrun h]
    simp
  built := by simp

theorem inSilence_run {telegram : TelegramNotifier} {es : List WatchEvent}
    (hbefore : Machine.run (watchStep probe) (init config telegram) es = some (s, out))
    (hbegins : BeginsSilence es) (hrun : Machine.run (watchStep probe) s span = some (t, o))
    (hquiet : ∀ e ∈ span, e.recorded? = none) :
    InSilence config probe (lastRecorded es) s.pendingLost span t o := by
  have hsentinel : Machine.run step (init config telegram) (es.map (event probe)) =
      some (s, out) := (Machine.run_map (event probe) _ es).symm.trans hbefore
  refine Machine.run_induction (watchStep probe)
    (P := fun span t o ↦ (∀ e ∈ span, e.recorded? = none) →
      InSilence config probe (lastRecorded es) s.pendingLost span t o)
    (fun _ ↦ inSilence_begin hsentinel hbegins) ?_ span t o hrun hquiet
  intro span m o e t o' _ ih hstep hquiet
  exact (ih fun d hd ↦ hquiet d (List.mem_append_left _ hd)).step (hquiet e (by simp)) hstep

/-- From the beginning of a silence on, and until the next heartbeat, one LOST alert is handed
over or still waits for the probe if an evaluation finds the silence, and none otherwise, apart
from one that was waiting when the silence began.  All these alerts tell of the last heartbeat
and of a probe made in the silence. -/
theorem lost_alerts_of_silence (config : RemoteHeartbeatConfig) (telegram : TelegramNotifier)
    (probe : ExternalProbe) {es span : List WatchEvent} {s t : RemoteSentinel}
    {out o : List AlertEvent}
    (hbefore : Machine.run (watchStep probe) (init config telegram) es = some (s, out))
    (hbegins : BeginsSilence es)
    (hrun : Machine.run (watchStep probe) s span = some (t, o))
    (hquiet : ∀ e ∈ span, e.recorded? = none) :
    (FindsSilence config (lastRecorded es) span →
      o.countP isLost + t.pendingLost = s.pendingLost + 1) ∧
    (¬FindsSilence config (lastRecorded es) span →
      o.countP isLost + t.pendingLost = s.pendingLost) ∧
    ∀ alert ∈ o, isLost alert = true → IsLostAlertAfter probe (lastRecorded es) span alert := by
  have h := inSilence_run hbefore hbegins hrun hquiet
  have hcount := h.count
  refine ⟨?_, ?_, h.built⟩
  · intro hfinds
    rwa [if_pos (h.alerted.mpr hfinds)] at hcount
  · intro hnone
    rwa [if_neg fun halerted ↦ hnone (h.alerted.mp halerted)] at hcount

/-- A heartbeat, then three evaluations of which the last two come too late. -/
def twoLateEvaluations : List WatchEvent :=
  [.evaluate 60000000 60000000 60000000, .evaluate 181000000 181000000 181000000,
    .probe ⟨.httpError, fun _ ↦ .openRaised⟩ 182000000 182000000, .sent .delivered,
    .evaluate 192000000 192000000 192000000]

theorem twoLateEvaluations_alert_once :
    ∃ s out t o, Machine.run (watchStep ⟨"192.0.2.1", true⟩) (init {} {})
        [.record 0 emptyPayload] = some (s, out) ∧
      Machine.run (watchStep ⟨"192.0.2.1", true⟩) s twoLateEvaluations = some (t, o) ∧
      o.countP isLost + t.pendingLost = s.pendingLost + 1 ∧
      ∀ alert ∈ o, isLost alert = true → IsLostAlertAfter ⟨"192.0.2.1", true⟩
        (some (0, emptyPayload)) twoLateEvaluations alert := by
  obtain ⟨s, out, t, o, hbefore, hrun⟩ : ∃ s out t o,
      Machine.run (watchStep ⟨"192.0.2.1", true⟩) (init {} {}) [.record 0 emptyPayload] =
          some (s, out) ∧
        Machine.run (watchStep ⟨"192.0.2.1", true⟩) s twoLateEvaluations = some (t, o) :=
    ⟨_, _, _, _, rfl, rfl⟩
  have hfinds : FindsSilence {} (lastRecorded [.record 0 emptyPayload]) twoLateEvaluations :=
    ⟨181000000, by decide, by rintro _ ⟨⟩; decide⟩
  obtain ⟨hcount, -, hbuilt⟩ := lost_alerts_of_silence {} {} _ hbefore
    (Or.inr ⟨[], 0, emptyPayload, rfl⟩) hrun (by simp [twoLateEvaluations, recorded?])
  exact ⟨s, out, t, o, hbefore, hrun, hcount hfinds, hbuilt⟩

end RemoteSentinel

end WanRouter
