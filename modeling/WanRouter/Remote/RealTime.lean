import WanRouter.Lib.TimedMachine
import WanRouter.Remote.Silences

/-!
# The sentinel in real time

`_monitor_loop` sleeps ten seconds after every iteration, whether it returned or
raised.  The steps of the loop get their times from one clock, and the readings of
`datetime.now(UTC)` in a step are not much earlier.  So the alerts are kept apart,
and a silence is alerted in time.
-/

namespace WanRouter

open HeartbeatStore RemoteAlertEngine TimedMachine

namespace WatchEvent

/-- The steps of `_monitor_loop`; a heartbeat is recorded by another task. -/
def ofLoop : WatchEvent → Bool
  | .record _ _ => false
  | _ => true

def readings : WatchEvent → List ℤ
  | .record now _ => [now]
  | .evaluate now now' now'' => [now, now', now'']
  | .probe _ now now' => [now, now']
  | .sent _ => []

end WatchEvent

namespace RemoteSentinel

/-- `asyncio.sleep(10)` at the end of an iteration. -/
def loopPause : ℤ := 10 * microsPerSecond

theorem loopPause_pos : 0 < loopPause := by decide

def realTime (probe : ExternalProbe) : Task RemoteSentinel WatchEvent AlertEvent where
  step := watchStep probe
  own := WatchEvent.ofLoop
  asleep s := s.position = .sleeping
  pause _ _ := loopPause

/-- When alerts were handed to `send_alert`. -/
def alertTimes (log : List (Entry WatchEvent AlertEvent)) : List ℤ :=
  times (fun _ alerts ↦ alerts.length) log

/-- The readings of a step are made within `lag` before its time. -/
def OnTime (lag : ℤ) (p : ℤ × WatchEvent) : Prop :=
  ∀ r ∈ p.2.readings, r ≤ p.1 ∧ p.1 ≤ r + lag

variable {config : RemoteHeartbeatConfig} {telegram : TelegramNotifier} {probe : ExternalProbe}
  {s t : RemoteSentinel} {e : WatchEvent} {o out : List AlertEvent}

theorem asleep_realTime : (realTime probe).asleep s = true ↔ s.position = .sleeping :=
  decide_eq_true_iff

theorem awake_realTime : (realTime probe).asleep s = false ↔ s.position ≠ .sleeping :=
  decide_eq_false_iff_not

theorem position_of_record (hother : e.ofLoop = false)
    (hstep : s.watchStep probe e = some (t, o)) : t.position = s.position ∧ o = [] := by
  cases e with
  | record now payload =>
      cases hstep
      exact ⟨rfl, rfl⟩
  | _ => cases hother

theorem regular_realTime (probe : ExternalProbe) :
    (realTime probe).Regular fun _ ↦ True where
  keeps _ _ := trivial
  asleep_eq := by
    intro s e t o hother hstep
    change decide (t.position = _) = decide (s.position = _)
    rw [(position_of_record hother hstep).1]

/-! ## The distance between alerts -/

theorem marksOnce_alerts (probe : ExternalProbe) :
    (realTime probe).MarksOnce (fun _ ↦ True) (fun _ alerts ↦ alerts.length) pendingLost
      loopPause where
  toRegular := regular_realTime probe
  other := by
    intro s e t o _ hother hstep
    obtain ⟨hpos, rfl⟩ := position_of_record hother hstep
    exact ⟨rfl, by rw [pendingLost, pendingLost, hpos]⟩
  begins := by
    intro s e t o _ hasleep hown hstep
    have hpos := asleep_realTime.mp hasleep
    have htrans : Transition s (e.event probe) t o := transition_of_step hstep
    cases e with
    | record now payload => cases hown
    | evaluate now now' now'' =>
        cases htrans with
        | decideLost _ _ _ _ hmissing halerted => simp [pendingLost]
        | handRecovered _ _ _ _ hquiet hwas hmissing => simp [pendingLost]
        | idle _ _ _ _ hquiet hidle => simp [pendingLost, hpos]
    | probe attempts now now' =>
        cases htrans with
        | handLost _ _ _ hprobing => simp [hpos] at hprobing
    | sent reply =>
        cases htrans with
        | sentLost alert _ hsending => simp [hpos] at hsending
        | sentRecovered alert _ hsending => simp [hpos] at hsending
  continues := by
    intro s e t o _ hawake hown hstep
    have hpos := awake_realTime.mp hawake
    have htrans : Transition s (e.event probe) t o := transition_of_step hstep
    cases e with
    | record now payload => cases hown
    | evaluate now now' now'' =>
        cases htrans with
        | decideLost _ _ _ hsleeping _ _ => exact absurd hsleeping hpos
        | handRecovered _ _ _ hsleeping _ _ _ => exact absurd hsleeping hpos
        | idle _ _ _ hsleeping _ _ => exact absurd hsleeping hpos
    | probe attempts now now' =>
        cases htrans with
        | handLost _ _ _ hprobing => simp [pendingLost, hprobing]
    | sent reply =>
        cases htrans with
        | sentLost alert _ hsending => simp [pendingLost, finishSend_position]
        | sentRecovered alert _ hsending => simp [pendingLost, finishSend_position]
  gap_le := fun _ _ _ _ ↦ le_rfl

/-- The decisions that the monitor is lost, at the readings of `should_alert_missing`. -/
def decided (s : RemoteSentinel) : WatchEvent → List ℤ
  | .evaluate now _ _ => if (s.store.shouldAlertMissing now).2 then [now] else []
  | _ => []

def decisionTimes (probe : ExternalProbe) (s : RemoteSentinel) (es : List WatchEvent) : List ℤ :=
  Machine.translated (watchStep probe) decided s es

/-- The decisions so far.  Before the next one a heartbeat has to be recorded. -/
structure DecisionsApart (config : RemoteHeartbeatConfig) (readings : List ℤ)
    (s : RemoteSentinel) (ds : List ℤ) : Prop where
  threshold : s.store.threshold = (ofConfig config).threshold
  pairwise : ds.Pairwise fun a b ↦ a + (ofConfig config).threshold < b
  past : ∀ a ∈ ds, a ∈ readings
  heard : s.store.alertedMissing = false → ∀ a ∈ ds, ∃ last ∈ s.store.lastHeartbeat, a ≤ last

variable {readings ds : List ℤ}

/-- A step that decides nothing and leaves the store as it is. -/
theorem DecisionsApart.frame (h : DecisionsApart config readings s ds)
    (hstore : t.store = s.store) (more : List ℤ) :
    DecisionsApart config (readings ++ more) t (ds ++ []) := by
  rw [List.append_nil]
  exact ⟨hstore ▸ h.threshold, h.pairwise, fun a ha ↦ List.mem_append_left _ (h.past a ha),
    hstore ▸ h.heard⟩

theorem DecisionsApart.step (h : DecisionsApart config readings s ds)
    (hclock : ∀ a ∈ readings, ∀ r ∈ e.readings, a ≤ r) (hstep : s.watchStep probe e = some (t, o)) :
    DecisionsApart config (readings ++ e.readings) t (ds ++ s.decided e) := by
  have htrans : Transition s (e.event probe) t o := transition_of_step hstep
  cases e with
  | record now payload =>
      cases hstep
      change DecisionsApart config _ _ (ds ++ [])
      rw [List.append_nil]
      refine ⟨h.threshold, h.pairwise, fun a ha ↦ List.mem_append_left _ (h.past a ha), ?_⟩
      exact fun _ a ha ↦ ⟨now, rfl, hclock a (h.past a ha) now List.mem_cons_self⟩
  | evaluate now now' now'' =>
      cases htrans with
      | decideLost _ _ _ hpos hmissing halerted =>
          have hdecided : s.decided (.evaluate now now' now'') = [now] := by
            simp [decided, shouldAlertMissing, hmissing, halerted]
          rw [hdecided]
          refine ⟨h.threshold, ?_, ?_, by simp⟩
          · rw [List.pairwise_append]
            refine ⟨h.pairwise, List.pairwise_singleton _ _, ?_⟩
            intro a ha b hb
            obtain rfl := List.mem_singleton.mp hb
            obtain ⟨last, hlast, hle⟩ := h.heard halerted a ha
            have hold := (s.store.isMissing_eq_true_iff b).mp hmissing last hlast
            rw [h.threshold] at hold
            omega
          · intro a ha
            rcases List.mem_append.mp ha with ha | ha
            · exact List.mem_append_left _ (h.past a ha)
            · obtain rfl := List.mem_singleton.mp ha
              exact List.mem_append_right _ List.mem_cons_self
      | handRecovered _ _ _ hpos hquiet hwas hmissing =>
          have hdecided : s.decided (.evaluate now now' now'') = [] := by
            rcases hquiet with hquiet | hquiet <;> simp [decided, shouldAlertMissing, hquiet]
          rw [hdecided]
          apply h.frame
          rfl
      | idle _ _ _ hpos hquiet hidle =>
          have hdecided : s.decided (.evaluate now now' now'') = [] := by
            rcases hquiet with hquiet | hquiet <;> simp [decided, shouldAlertMissing, hquiet]
          rw [hdecided]
          apply h.frame
          rfl
  | probe attempts now now' =>
      cases htrans with
      | handLost _ _ _ hpos =>
          apply h.frame
          rfl
  | sent reply =>
      cases htrans with
      | sentLost alert _ hpos => exact h.frame (finishSend_store _ _ _) _
      | sentRecovered alert _ hpos => exact h.frame (finishSend_store _ _ _) _

/-- On a clock that does not go back, two decisions are more than the threshold apart. -/
theorem pairwise_decisionTimes {es : List WatchEvent}
    (hrun : Machine.run (watchStep probe) (init config telegram) es = some (t, out))
    (hclock : (es.flatMap WatchEvent.readings).Pairwise (· ≤ ·)) :
    (decisionTimes probe (init config telegram) es).Pairwise fun a b ↦
      a + (ofConfig config).threshold < b := by
  have h : DecisionsApart config (es.flatMap WatchEvent.readings) t
      (decisionTimes probe (init config telegram) es) := by
    refine Machine.run_induction (watchStep probe)
      (P := fun es t _ ↦ (es.flatMap WatchEvent.readings).Pairwise (· ≤ ·) →
        DecisionsApart config (es.flatMap WatchEvent.readings) t
          (decisionTimes probe (init config telegram) es)) ?_ ?_ es t out hrun hclock
    · exact fun _ ↦ ⟨rfl, List.Pairwise.nil, by simp [decisionTimes], by simp [decisionTimes]⟩
    · intro es m out e t o hbefore ih hstep hclock
      rw [List.flatMap_append, List.flatMap_singleton, List.pairwise_append] at hclock
      rw [decisionTimes, Machine.translated_concat _ _ hbefore hstep, List.flatMap_append,
        List.flatMap_singleton]
      exact (ih hclock.1).step hclock.2.2 hstep
  exact h.pairwise

/-- The sentinel does not flood Telegram, whatever arrives or raises.  Its alerts are at least
ten seconds apart; and its decisions that the monitor is lost are more than the threshold
apart, on a clock that does not go back. -/
theorem alerts_spaced (config : RemoteHeartbeatConfig) (telegram : TelegramNotifier)
    (probe : ExternalProbe) {begin : ℤ} {es : List (ℤ × WatchEvent)} {t : Timed RemoteSentinel}
    {log : List (Entry WatchEvent AlertEvent)}
    (hrun : Machine.run (realTime probe).timedStep (start (init config telegram) begin) es =
      some (t, log)) :
    ((alertTimes log).Pairwise fun a b ↦ a + loopPause ≤ b) ∧
    (∀ a width, 0 ≤ width →
      (((alertTimes log).filter fun x ↦ a ≤ x ∧ x ≤ a + width).length : ℤ) ≤
        width / loopPause + 1) ∧
    (((es.map Prod.snd).flatMap WatchEvent.readings).Pairwise (· ≤ ·) →
      (decisionTimes probe (init config telegram) (es.map Prod.snd)).Pairwise fun a b ↦
        a + (ofConfig config).threshold < b) := by
  have hspaced : (alertTimes log).Pairwise fun a b ↦ a + loopPause ≤ b :=
    (marksOnce_alerts probe).pairwise_times trivial (asleep_realTime.mpr rfl) hrun
  refine ⟨hspaced, ?_, pairwise_decisionTimes (Task.run_untimed hrun)⟩
  exact fun a width hwidth ↦ Task.length_window_le hspaced loopPause_pos a hwidth

/-- Two silences, each with its alert. -/
def twoSilences : List (ℤ × WatchEvent) :=
  [(0, .evaluate 0 0 0), (0, .probe ⟨.httpError, fun _ ↦ .openRaised⟩ 0 0),
    (0, .sent .delivered), (5000000, .record 5000000 emptyPayload),
    (21000000, .evaluate 21000000 21000000 21000000),
    (22000000, .probe ⟨.httpError, fun _ ↦ .openRaised⟩ 22000000 22000000)]

theorem twoSilences_spaced :
    ∃ t log, Machine.run (realTime ⟨"192.0.2.1", true⟩).timedStep (start (init ⟨5, 3⟩ {}) 0)
        twoSilences = some (t, log) ∧
      alertTimes log = [0, 22000000] ∧
      ((alertTimes log).Pairwise fun a b ↦ a + loopPause ≤ b) := by
  obtain ⟨t, log, hrun, htimes⟩ : ∃ t log,
      Machine.run (realTime ⟨"192.0.2.1", true⟩).timedStep (start (init ⟨5, 3⟩ {}) 0)
        twoSilences = some (t, log) ∧ alertTimes log = [0, 22000000] := ⟨_, _, rfl, rfl⟩
  exact ⟨t, log, hrun, htimes, (alerts_spaced _ _ _ hrun).1⟩

/-! ## The time until a silence is alerted -/

/-- The steps that the loop still makes in its iteration, at most. -/
def remainingSteps (s : RemoteSentinel) : ℕ :=
  match s.position with
  | .sleeping => 0
  | .probing => 2
  | .sendingLost _ => 1
  | .sendingRecovered _ => 1

theorem works_realTime (probe : ExternalProbe) :
    (realTime probe).Works (fun _ ↦ True) remainingSteps 3 loopPause where
  toRegular := regular_realTime probe
  work_other := by
    intro s e t o _ hother hstep
    rw [remainingSteps, remainingSteps, (position_of_record hother hstep).1]
  work_own := by
    intro s e t o _ hawake hown hstep
    have hpos := awake_realTime.mp hawake
    have htrans : Transition s (e.event probe) t o := transition_of_step hstep
    cases e with
    | record now payload => cases hown
    | evaluate now now' now'' =>
        cases htrans with
        | decideLost _ _ _ hsleeping _ _ => exact absurd hsleeping hpos
        | handRecovered _ _ _ hsleeping _ _ _ => exact absurd hsleeping hpos
        | idle _ _ _ hsleeping _ _ => exact absurd hsleeping hpos
    | probe attempts now now' =>
        cases htrans with
        | handLost _ _ _ hprobing => simp [remainingSteps, hprobing]
    | sent reply =>
        cases htrans with
        | sentLost alert _ hsending => simp [remainingSteps, finishSend_position, hsending]
        | sentRecovered alert _ hsending => simp [remainingSteps, finishSend_position, hsending]
  work_lt := by
    intro s _ _
    cases hpos : s.position <;> simp [remainingSteps, hpos]
  pause_mem := fun _ _ _ _ ↦ ⟨loopPause_pos.le, le_rfl⟩
  longest_nonneg := loopPause_pos.le

theorem alertedMissing_of_quiet (hquiet : e.recorded? = none)
    (hstep : s.watchStep probe e = some (t, o)) (halerted : s.store.alertedMissing = true) :
    t.store.alertedMissing = true ∧ (s.position ≠ .probing → t.position ≠ .probing) := by
  have htrans : Transition s (e.event probe) t o := transition_of_step hstep
  cases e with
  | record now payload => cases hquiet
  | evaluate now now' now'' =>
      cases htrans with
      | decideLost _ _ _ hpos hmissing hnot => simp [halerted] at hnot
      | handRecovered _ _ _ hpos hquiet hwas hmissing => exact ⟨halerted, by simp⟩
      | idle _ _ _ hpos hquiet hidle => exact ⟨halerted, id⟩
  | probe attempts now now' =>
      cases htrans with
      | handLost _ _ _ hpos => exact ⟨halerted, by simp⟩
  | sent reply =>
      cases htrans with
      | sentLost alert _ hpos => simp [finishSend_position, halerted]
      | sentRecovered alert _ hpos => simp [finishSend_position, halerted]

/-- When the silence began: with the last heartbeat, or else with the start. -/
def silentSince (begin : ℤ) (es : List WatchEvent) : ℤ :=
  ((lastRecorded es).map Prod.fst).getD begin

/-- Long after the last heartbeat it is missing. -/
theorem silent_of_lt {begin now : ℤ} {es : List WatchEvent}
    (h : silentSince begin es + max 0 (ofConfig config).threshold < now) :
    config.Silent ((lastRecorded es).map Prod.fst) now := by
  intro last hlast
  rw [silentSince, Option.mem_def.mp hlast, Option.getD_some] at h
  have hle : (ofConfig config).threshold ≤ max 0 (ofConfig config).threshold := le_max_right _ _
  change (ofConfig config).threshold < now - last
  omega

section Lap

variable {before : List WatchEvent} {lag begin : ℤ} {span : List (ℤ × WatchEvent)}

/-- The evaluation that begins a lap late in a silence finds it, unless one did before. -/
theorem alertedMissing_of_inLap
    (hbefore : Machine.run (watchStep probe) (init config telegram) before = some (s, out))
    (hbegins : BeginsSilence before)
    (h : (realTime probe).InLap
      (silentSince begin before + max 0 (ofConfig config).threshold + lag) s span t o) :
    (∀ p ∈ span, p.2.recorded? = none) → (∀ p ∈ span, OnTime lag p) →
      t.store.alertedMissing = true := by
  induction h with
  | @begin span s₁ t now e o₁ o₂ hrun hlate hown hasleep hstep =>
      intro hquiet hontime
      have hmissing := (inSilence_run hbefore hbegins hrun fun e he ↦ by
        obtain ⟨p, hp, rfl⟩ := List.mem_map.mp he
        exact hquiet p (List.mem_append_left _ hp)).missing
      have hlast : OnTime lag (now, e) := hontime _ (by simp)
      have hpos := asleep_realTime.mp hasleep
      have htrans : Transition s₁ (e.event probe) t o₂ := transition_of_step hstep
      cases e with
      | record now payload => cases hown
      | evaluate reading now' now'' =>
          have hlong : ∀ r ∈ [reading, now', now''], s₁.store.isMissing r = true := by
            intro r hr
            have hlag := (hlast r hr).2
            change now ≤ r + lag at hlag
            have hlong : silentSince begin before + max 0 (ofConfig config).threshold < r := by
              omega
            exact (hmissing r).mpr (silent_of_lt hlong)
          cases htrans with
          | decideLost _ _ _ _ _ halerted => rfl
          | handRecovered _ _ _ _ hquiet' hwas hnot =>
              exact absurd ((hlong now' (by simp)).symm.trans hnot) Bool.true_eq_false.mp
          | idle _ _ _ _ hquiet' hidle =>
              exact hquiet'.resolve_left (by simp [hlong reading (by simp)])
      | probe attempts now' now'' =>
          cases htrans with
          | handLost _ _ _ hprobing => simp [hpos] at hprobing
      | sent reply =>
          cases htrans with
          | sentLost alert _ hsending => simp [hpos] at hsending
          | sentRecovered alert _ hsending => simp [hpos] at hsending
  | go h hawake hstep ih =>
      intro hquiet hontime
      have halerted := ih (fun p hp ↦ hquiet p (List.mem_append_left _ hp))
        (fun p hp ↦ hontime p (List.mem_append_left _ hp))
      exact (alertedMissing_of_quiet (hquiet _ (by simp)) hstep halerted).1

theorem alerted_of_lapMade
    (hbefore : Machine.run (watchStep probe) (init config telegram) before = some (s, out))
    (hbegins : BeginsSilence before)
    (h : (realTime probe).LapMade
      (silentSince begin before + max 0 (ofConfig config).threshold + lag) s span t o) :
    (∀ p ∈ span, p.2.recorded? = none) → (∀ p ∈ span, OnTime lag p) →
      t.store.alertedMissing = true ∧ t.position ≠ .probing := by
  induction h with
  | made h hasleep =>
      intro hquiet hontime
      refine ⟨alertedMissing_of_inLap hbefore hbegins h hquiet hontime, ?_⟩
      rw [asleep_realTime.mp hasleep]
      simp
  | go h hstep ih =>
      intro hquiet hontime
      obtain ⟨halerted, hpos⟩ := ih (fun p hp ↦ hquiet p (List.mem_append_left _ hp))
        (fun p hp ↦ hontime p (List.mem_append_left _ hp))
      obtain ⟨hkept, hposition⟩ := alertedMissing_of_quiet (hquiet _ (by simp)) hstep halerted
      exact ⟨hkept, hposition hpos⟩

end Lap

/-- The silence begins with the start, or with a heartbeat that is recorded on time. -/
theorem clock_le_silentSince {lag begin : ℤ} {es : List (ℤ × WatchEvent)}
    {s : Timed RemoteSentinel} {log : List (Entry WatchEvent AlertEvent)} (hlag : 0 ≤ lag)
    (hrun : Machine.run (realTime probe).timedStep (start (init config telegram) begin) es =
      some (s, log))
    (hbegins : BeginsSilence (es.map Prod.snd)) (hontime : ∀ p ∈ es, OnTime lag p) :
    s.clock ≤ silentSince begin (es.map Prod.snd) + lag := by
  rcases hbegins with hnil | ⟨earlier, now, payload, hconcat⟩
  · obtain rfl := List.map_eq_nil_iff.mp hnil
    cases hrun
    exact le_add_of_nonneg_right hlag
  · obtain ⟨es', last, rfl, -, hlast⟩ := List.map_eq_append_iff.mp hconcat
    obtain ⟨p, rfl, hp⟩ := List.map_eq_singleton_iff.mp hlast
    obtain ⟨m, o₁, o₂, -, hstep, -⟩ := (Machine.run_append_eq_some _).mp hrun
    rw [Machine.run_singleton] at hstep
    have hclock := (Task.transition_of_step hstep).clock_eq
    have hreading := (hontime p (by simp) now (by simp [hp, WatchEvent.readings])).2
    have hsince : silentSince begin ((es' ++ [p]).map Prod.snd) = now := by
      simp [silentSince, lastRecorded, hp, WatchEvent.recorded?]
    rw [hsince, hclock]
    exact hreading

/-- A silence is alerted in time.  If every step of the loop (an evaluation, the probe, a send)
comes at most `lag` late, then once the clock shows more than the threshold, ten seconds and
eight times `lag` after the last heartbeat, or after the start, one LOST alert for this silence
has been handed over, apart from one that was waiting for the probe when it began.  It is built
from the last heartbeat and from the answer of a probe made in the silence. -/
theorem silence_alerted_in_time (config : RemoteHeartbeatConfig) (telegram : TelegramNotifier)
    (probe : ExternalProbe) {lag begin : ℤ} {es span : List (ℤ × WatchEvent)}
    {s t : Timed RemoteSentinel} {log log' : List (Entry WatchEvent AlertEvent)}
    (hlag : 0 ≤ lag)
    (hbefore : Machine.run (realTime probe).timedStep (start (init config telegram) begin) es =
      some (s, log))
    (hbegins : BeginsSilence (es.map Prod.snd))
    (hrun : Machine.run (realTime probe).timedStep s span = some (t, log'))
    (hquiet : ∀ p ∈ span, p.2.recorded? = none)
    (hprompt : (realTime probe).Prompt lag (start (init config telegram) begin) (es ++ span))
    (hontime : ∀ p ∈ es ++ span, OnTime lag p)
    (hlate : silentSince begin (es.map Prod.snd) + max 0 (ofConfig config).threshold +
      loopPause + 8 * lag < t.clock) :
    (outputs log').countP isLost = s.state.pendingLost + 1 ∧
    ∀ alert ∈ outputs log', isLost alert = true →
      IsLostAlertAfter probe (lastRecorded (es.map Prod.snd)) (span.map Prod.snd) alert := by
  have hworks := works_realTime probe
  obtain ⟨hprompt₁, hprompt₂⟩ := (Machine.along_append _ hbefore).mp hprompt
  have hsteady := (Task.steady_start hworks hlag trivial begin).run hworks hlag hbefore hprompt₁
  have huntimed := Task.run_untimed hbefore
  have hclock : s.clock ≤ silentSince begin (es.map Prod.snd) +
      max 0 (ofConfig config).threshold + lag := by
    have hstart := clock_le_silentSince hlag hbefore hbegins
      fun p hp ↦ hontime p (List.mem_append_left _ hp)
    have hnonneg : 0 ≤ max 0 (ofConfig config).threshold := le_max_left _ _
    omega
  have hlap := hworks.lapMade hlag hsteady hclock hrun hprompt₂ (by push_cast; linarith)
  obtain ⟨halerted, hpos⟩ := alerted_of_lapMade huntimed hbegins hlap hquiet
    (fun p hp ↦ hontime p (List.mem_append_right _ hp))
  have hsilence := inSilence_run huntimed hbegins (Task.run_untimed hrun) fun e he ↦ by
    obtain ⟨p, hp, rfl⟩ := List.mem_map.mp he
    exact hquiet p hp
  have hcount := hsilence.count
  rw [if_pos halerted, pendingLost_of_ne hpos] at hcount
  exact ⟨hcount, hsilence.built⟩

/-- A heartbeat at the start, and then none; the third evaluation finds the silence. -/
def silentMinute : List (ℤ × WatchEvent) :=
  [(0, .evaluate 0 0 0), (10000000, .evaluate 10000000 10000000 10000000),
    (20000000, .evaluate 20000000 20000000 20000000),
    (20500000, .probe ⟨.httpError, fun _ ↦ .openRaised⟩ 20500000 20500000),
    (20600000, .sent .delivered), (30600000, .evaluate 30600000 30600000 30600000),
    (40600000, .evaluate 40600000 40600000 40600000)]

theorem silentMinute_alerted :
    ∃ s log t log', Machine.run (realTime ⟨"192.0.2.1", true⟩).timedStep
        (start (init ⟨5, 3⟩ {}) 0) [(0, .record 0 emptyPayload)] = some (s, log) ∧
      Machine.run (realTime ⟨"192.0.2.1", true⟩).timedStep s silentMinute = some (t, log') ∧
      (outputs log').countP isLost = 1 ∧
      ∀ alert ∈ outputs log', isLost alert = true → IsLostAlertAfter ⟨"192.0.2.1", true⟩
        (some (0, emptyPayload)) (silentMinute.map Prod.snd) alert := by
  obtain ⟨s, log, t, log', hbefore, hrun, hpending, hlate⟩ : ∃ s log t log',
      Machine.run (realTime ⟨"192.0.2.1", true⟩).timedStep (start (init ⟨5, 3⟩ {}) 0)
          [(0, .record 0 emptyPayload)] = some (s, log) ∧
        Machine.run (realTime ⟨"192.0.2.1", true⟩).timedStep s silentMinute = some (t, log') ∧
        s.state.pendingLost = 0 ∧ t.clock = 40600000 := ⟨_, _, _, _, rfl, rfl, rfl, rfl⟩
  have hprompt : (realTime ⟨"192.0.2.1", true⟩).Prompt 1000000 (start (init ⟨5, 3⟩ {}) 0)
      ([(0, .record 0 emptyPayload)] ++ silentMinute) := by decide
  obtain ⟨hcount, hbuilt⟩ := silence_alerted_in_time ⟨5, 3⟩ {} _ (by decide) hbefore
    (Or.inr ⟨[], 0, emptyPayload, rfl⟩) hrun (by simp [silentMinute, WatchEvent.recorded?])
    hprompt (by simp [silentMinute, OnTime, WatchEvent.readings])
    (by rw [hlate]; decide)
  exact ⟨s, log, t, log', hbefore, hrun, by rw [hcount, hpending], hbuilt⟩

end RemoteSentinel

end WanRouter
