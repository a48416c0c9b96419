import WanRouter.Remote.SentinelRuns

/-!
# Heartbeats that arrive while the probe is awaited

The decision and the alert are made at different times, and heartbeats may be
recorded in between.  The alert reads the last heartbeat again but it is sent
whatever it reads.
-/

namespace WanRouter

open HeartbeatStore RemoteAlertEngine

namespace RemoteSentinel

open SentinelEvent

variable {config : RemoteHeartbeatConfig} {telegram : TelegramNotifier}
  {s t : RemoteSentinel} {e : SentinelEvent} {es : List SentinelEvent}
  {out o : List AlertEvent}

theorem lastHeartbeat_run (hrun : Machine.run step (init config telegram) es = some (s, out)) :
    s.store.lastHeartbeat = (recordTimes es).getLast? := by
  rw [run_store hrun, run_lastHeartbeat, lastRecord_storeCalls]
  exact Option.or_none

theorem isMissing_iff_silent
    (hrun : Machine.run step (init config telegram) es = some (s, out)) (now : ℤ) :
    s.store.isMissing now = true ↔ config.Silent (recordTimes es).getLast? now := by
  rw [run_store hrun, isMissing_run_iff, lastRecord_storeCalls]

theorem recordTimes_append (es es' : List SentinelEvent) :
    recordTimes (es ++ es') = recordTimes es ++ recordTimes es' := List.filterMap_append

/-- The events end with a decision at `decided` and the records since then. -/
structure Awaits (config : RemoteHeartbeatConfig) (es pre : List SentinelEvent)
    (decided now' now'' : ℤ) (mid : List SentinelEvent) : Prop where
  split : es = pre ++ .evaluate decided now' now'' :: mid
  silent : config.Silent (recordTimes pre).getLast? decided
  records : ∀ e ∈ mid, ∃ now payload, e = .record now payload

theorem Awaits.record {pre mid : List SentinelEvent} {decided now' now'' : ℤ}
    (h : Awaits config es pre decided now' now'' mid) (now : ℤ) (payload : HeartbeatPayload) :
    Awaits config (es ++ [.record now payload]) pre decided now' now''
      (mid ++ [.record now payload]) where
  split := by rw [h.split, List.append_assoc, List.cons_append]
  silent := h.silent
  records := by
    intro e he
    rcases List.mem_append.mp he with he | he
    · exact h.records e he
    · exact ⟨now, payload, List.mem_singleton.mp he⟩

theorem finishSend_position (s : RemoteSentinel) (missing : Bool) (result : SendResult) :
    (s.finishSend missing result).position = .sleeping := by
  cases result <;> rfl

/-- Only records happen between a decision and the end of its probe. -/
theorem exists_awaits (hrun : Machine.run step (init config telegram) es = some (s, out))
    (hpos : s.position = .probing) :
    ∃ pre decided now' now'' mid, Awaits config es pre decided now' now'' mid := by
  refine Machine.run_induction step (P := fun es s _ ↦ s.position = .probing →
    ∃ pre decided now' now'' mid, Awaits config es pre decided now' now'' mid) ?_ ?_
    es s out hrun hpos
  · rintro ⟨⟩
  · intro es m out e t o hrun ih hstep hprobing
    cases transition_of_step hstep with
    | record now payload =>
        obtain ⟨pre, decided, now', now'', mid, h⟩ := ih hprobing
        exact ⟨pre, decided, now', now'', _, h.record now payload⟩
    | decideLost now now' now'' hpos hmissing halerted =>
        refine ⟨es, now, now', now'', [], rfl, ?_, by simp⟩
        exact (isMissing_iff_silent hrun now).mp hmissing
    | idle now now' now'' hpos hquiet hidle => exact absurd hprobing (by simp [hpos])
    | handRecovered now now' now'' hpos hquiet hwas hmissing => exact absurd hprobing (by simp)
    | handLost result now now' hpos => exact absurd hprobing (by simp)
    | probeRaised hpos => exact absurd hprobing (by simp)
    | sentLost alert reply hpos => simp [finishSend_position] at hprobing
    | sentRecovered alert reply hpos => simp [finishSend_position] at hprobing

/-- The last heartbeat of an alert is old enough exactly if all the heartbeats recorded
since the decision are. -/
theorem Awaits.last_old_iff {pre mid : List SentinelEvent} {decided now' now'' sentAt last : ℤ}
    (h : Awaits config es pre decided now' now'' mid)
    (hclock : (es.flatMap readings ++ [sentAt]).Pairwise (· ≤ ·))
    (hlast : (recordTimes es).getLast? = some last) :
    config.expectedInterval * config.missedThreshold * microsPerSecond < sentAt - last ↔
      ∀ u ∈ recordTimes mid,
        config.expectedInterval * config.missedThreshold * microsPerSecond < sentAt - u := by
  have htimes : recordTimes es = recordTimes pre ++ recordTimes mid := by
    rw [h.split, recordTimes_append]
    rfl
  have hle : decided ≤ sentAt := by
    have hmem : decided ∈ es.flatMap readings := by simp [h.split, readings]
    exact (List.pairwise_append.mp hclock).2.2 decided hmem sentAt (by simp)
  have hrecords := (List.pairwise_append.mp hclock).1.sublist (recordTimes_sublist es)
  rw [htimes, List.getLast?_append] at hlast
  cases hmid : (recordTimes mid).getLast? with
  | none =>
      -- No heartbeat since the decision, which was made in a silence.
      have hnil : recordTimes mid = [] := List.getLast?_eq_none_iff.mp hmid
      rw [hmid, Option.none_or] at hlast
      have hold := h.silent last (hlast ▸ rfl)
      refine iff_of_true (by omega) (by simp [hnil])
  | some latest =>
      rw [hmid, Option.some_or, Option.some.injEq] at hlast
      subst hlast
      have hmem : latest ∈ recordTimes mid := List.mem_of_getLast? hmid
      constructor
      · intro hold u hu
        rw [htimes] at hrecords
        have hlater := le_getLast?_of_pairwise (List.pairwise_append.mp hrecords).2.1 hu hmid
        omega
      · exact fun hall ↦ hall latest hmem

/-- A LOST alert reports a last heartbeat older than the threshold exactly if every
heartbeat recorded since the decision is, in particular if there is none. -/
theorem lost_alert_consistent_iff (config : RemoteHeartbeatConfig)
    (telegram : TelegramNotifier) {es : List SentinelEvent} {s t : RemoteSentinel}
    {out o : List AlertEvent} {result : ProbeResult} {now now' : ℤ}
    (hrun : Machine.run step (init config telegram) es = some (s, out))
    (hclock : (es.flatMap readings ++ [now']).Pairwise (· ≤ ·))
    (hprobed : step s (.probed result now now') = some (t, o)) :
    ∃ pre decided decided' decided'' mid,
      es = pre ++ .evaluate decided decided' decided'' :: mid ∧
      (∀ e ∈ mid, ∃ now payload, e = .record now payload) ∧
      (recordTimes pre ≠ [] → ∃ last,
        o = [createMonitorLostAlert now' last s.store.getLastWanStates result] ∧
        (config.expectedInterval * config.missedThreshold * microsPerSecond < now' - last ↔
          ∀ u ∈ recordTimes mid,
            config.expectedInterval * config.missedThreshold * microsPerSecond < now' - u)) := by
  cases transition_of_step hprobed with
  | handLost _ _ _ hpos =>
      obtain ⟨pre, decided, decided', decided'', mid, h⟩ := exists_awaits hrun hpos
      refine ⟨pre, decided, decided', decided'', mid, h.split, h.records, ?_⟩
      intro hrecorded
      have hne : recordTimes es ≠ [] := by
        rw [h.split, recordTimes_append]
        simp [hrecorded]
      obtain ⟨last, hlast⟩ := Option.isSome_iff_exists.mp (List.getLast?_isSome.mpr hne)
      refine ⟨last, ?_, h.last_old_iff hclock hlast⟩
      rw [lostAlert, lastHeartbeat_run hrun, hlast]
      rfl

/-- A heartbeat at 0, a decision after 181 seconds and a heartbeat during the probe. -/
def lateHeartbeat : List SentinelEvent :=
  [.record 0 emptyPayload, .evaluate 181000000 181000000 181000000,
    .record 182000000 emptyPayload]

theorem lost_alert_lateHeartbeat :
    ∃ s out t o, Machine.run step (init {} {}) lateHeartbeat = some (s, out) ∧
      step s (.probed .unreachable 183000000 183000000) = some (t, o) ∧
      ∃ pre decided decided' decided'' mid,
        lateHeartbeat = pre ++ .evaluate decided decided' decided'' :: mid ∧
        recordTimes pre ≠ [] ∧ ∃ last,
          o = [createMonitorLostAlert 183000000 last s.store.getLastWanStates .unreachable] ∧
          (60 * 3 * microsPerSecond < 183000000 - last ↔
            ∀ u ∈ recordTimes mid, 60 * 3 * microsPerSecond < 183000000 - u) := by
  obtain ⟨s, out, t, o, hrun, hprobed⟩ : ∃ s out t o,
      Machine.run step (init {} {}) lateHeartbeat = some (s, out) ∧
        step s (.probed .unreachable 183000000 183000000) = some (t, o) :=
    ⟨_, _, _, _, rfl, rfl⟩
  obtain ⟨pre, decided, decided', decided'', mid, hsplit, -, halert⟩ :=
    lost_alert_consistent_iff {} {} hrun (by decide) hprobed
  have hne : recordTimes pre ≠ [] := by
    cases pre with
    | nil => cases hsplit
    | cons e pre =>
        obtain ⟨rfl, -⟩ := List.cons.inj hsplit
        exact List.cons_ne_nil _ _
  exact ⟨s, out, t, o, hrun, hprobed, pre, decided, decided', decided'', mid, hsplit, hne,
    halert hne⟩

/-- The alert is handed over with a heartbeat that was received one second ago. -/
theorem lost_alert_reports_recent_heartbeat :
    (Machine.run step (init {} {})
        (lateHeartbeat ++ [.probed .unreachable 183000000 183000000])).map Prod.snd =
      some [createMonitorLostAlert 183000000 182000000 ∅ .unreachable] ∧
    ¬60 * 3 * microsPerSecond < 183000000 - 182000000 :=
  ⟨rfl, by decide⟩

end RemoteSentinel

end WanRouter
