import WanRouter.Lib.EdgeDetector
import WanRouter.Remote.Sentinel

/-!
# Runs of the sentinel

The store of a run is the store after the calls that its events make, so a
decision of the loop is a decision in a silence.  With regular evaluations the
flag of the store and the flag of the loop together keep the alerts alternating.
-/

namespace WanRouter

open HeartbeatStore RemoteAlertEngine EdgeDetector

namespace SentinelEvent

/-- The calls that change the store; `is_missing` only reads it. -/
def storeCalls : SentinelEvent → List Call
  | .record now payload => [.record now payload]
  | .evaluate now _ _ => [.shouldAlertMissing now]
  | _ => []

def readings : SentinelEvent → List ℤ
  | .record now _ => [now]
  | .evaluate now now' now'' => [now, now', now'']
  | .probed _ now now' => [now, now']
  | _ => []

def recordedAt? : SentinelEvent → Option ℤ
  | .record now _ => some now
  | _ => none

def evaluatedAt? : SentinelEvent → Option ℤ
  | .evaluate now _ _ => some now
  | _ => none

end SentinelEvent

namespace RemoteSentinel

open SentinelEvent

variable {config : RemoteHeartbeatConfig} {telegram : TelegramNotifier}
  {s t : RemoteSentinel} {e : SentinelEvent} {es : List SentinelEvent}
  {out o : List AlertEvent}

theorem Transition.store (h : Transition s e t o) :
    t.store = Mealy.run call s.store e.storeCalls := by
  cases h with
  | record now payload => rfl
  | decideLost now now' now'' hpos hmissing halerted =>
      simp [storeCalls, call, shouldAlertMissing, hmissing, halerted]
  | handRecovered now now' now'' hpos hquiet hwas hmissing =>
      rcases hquiet with h | h <;> simp [storeCalls, call, shouldAlertMissing, h]
  | idle now now' now'' hpos hquiet hidle =>
      rcases hquiet with h | h <;> simp [storeCalls, call, shouldAlertMissing, h]
  | handLost result now now' hpos => rfl
  | probeRaised hpos => rfl
  | sentLost alert reply hpos => exact finishSend_store _ _ _
  | sentRecovered alert reply hpos => exact finishSend_store _ _ _

theorem Transition.telegram_eq (h : Transition s e t o) : t.telegram = s.telegram := by
  cases h with
  | sentLost alert reply hpos => exact finishSend_telegram _ _ _
  | sentRecovered alert reply hpos => exact finishSend_telegram _ _ _
  | _ => rfl

/-- A run of the loop is a run of its store. -/
theorem run_store (hrun : Machine.run step (init config telegram) es = some (s, out)) :
    s.store = Mealy.run call (ofConfig config) (es.flatMap storeCalls) := by
  refine Machine.run_induction step
    (P := fun es s _ ↦ s.store = Mealy.run call (ofConfig config) (es.flatMap storeCalls))
    rfl ?_ es s out hrun
  intro es m out e t o _ ih hstep
  rw [(transition_of_step hstep).store, ih, List.flatMap_append, Mealy.run_append]
  simp

theorem run_telegram (hrun : Machine.run step (init config telegram) es = some (s, out)) :
    s.telegram = telegram :=
  Machine.run_frame step RemoteSentinel.telegram
    (fun _ _ _ _ hstep ↦ (transition_of_step hstep).telegram_eq) hrun

def emptyPayload : HeartbeatPayload where
  timestamp := 0
  wanStates := ∅
  recentEvents := []

/-! ## When a LOST alert is decided -/

def recordTimes (es : List SentinelEvent) : List ℤ := es.filterMap recordedAt?

theorem lastRecord_storeCalls (es : List SentinelEvent) :
    lastRecord (es.flatMap storeCalls) = (recordTimes es).getLast? := by
  have htimes : (es.flatMap storeCalls).filterMap Call.recordedAt? = recordTimes es := by
    induction es with
    | nil => rfl
    | cons e es ih =>
        rw [List.flatMap_cons, List.filterMap_append, ih]
        cases e <;> rfl
  rw [lastRecord, htimes]

theorem recordTimes_sublist (es : List SentinelEvent) :
    (recordTimes es).Sublist (es.flatMap readings) := by
  induction es with
  | nil => exact List.Sublist.refl _
  | cons e es ih =>
      rw [List.flatMap_cons]
      cases e with
      | record now payload => exact ih.cons_cons now
      | _ => exact ih.trans (List.sublist_append_right _ _)

/-- Of a list of nondecreasing readings the last is the largest. -/
theorem le_getLast?_of_pairwise {l : List ℤ} (h : l.Pairwise (· ≤ ·)) {a b : ℤ} (ha : a ∈ l)
    (hb : l.getLast? = some b) : a ≤ b := by
  obtain ⟨l', rfl⟩ := List.getLast?_eq_some_iff.mp hb
  rcases List.mem_append.mp ha with ha | ha
  · exact (List.pairwise_append.mp h).2.2 a ha b (by simp)
  · exact Int.le_of_eq (List.mem_singleton.mp ha)

/-- When a LOST alert is decided, every heartbeat recorded since the start is older
than the threshold; and either none was recorded, or the sentinel has been running
for longer than the threshold. -/
theorem lost_decision_after_silence (config : RemoteHeartbeatConfig)
    (telegram : TelegramNotifier) {start now : ℤ} {es : List SentinelEvent}
    {s : RemoteSentinel} {out : List AlertEvent}
    (hrun : Machine.run step (init config telegram) es = some (s, out))
    (hclock : (start :: es.flatMap readings ++ [now]).Pairwise (· ≤ ·))
    (hdecided : (s.store.shouldAlertMissing now).2 = true) :
    (∀ t ∈ recordTimes es,
      config.expectedInterval * config.missedThreshold * microsPerSecond < now - t) ∧
    (recordTimes es = [] ∨
      config.expectedInterval * config.missedThreshold * microsPerSecond < now - start) := by
  have hsilent : config.Silent (recordTimes es).getLast? now := by
    rw [run_store hrun] at hdecided
    rw [← lastRecord_storeCalls]
    exact silent_of_decided hdecided
  cases hlast : (recordTimes es).getLast? with
  | none =>
      have hnil : recordTimes es = [] := List.getLast?_eq_none_iff.mp hlast
      simp [hnil]
  | some last =>
      have hold := hsilent last (hlast ▸ rfl)
      rw [List.cons_append, List.pairwise_cons] at hclock
      obtain ⟨hstart, hreadings⟩ := hclock
      have hrecords := (List.pairwise_append.mp hreadings).1.sublist (recordTimes_sublist es)
      constructor
      · intro t ht
        have hle := le_getLast?_of_pairwise hrecords ht hlast
        omega
      · have hmem : last ∈ es.flatMap readings :=
          (recordTimes_sublist es).mem (List.mem_of_getLast? hlast)
        have hle := hstart last (List.mem_append_left _ hmem)
        exact Or.inr (by omega)

theorem lost_decision_after_four_minutes :
    (∀ t ∈ recordTimes [.record 0 emptyPayload],
      60 * 3 * microsPerSecond < 240000000 - t) ∧
    (recordTimes [.record 0 emptyPayload] = [] ∨ 60 * 3 * microsPerSecond < 240000000 - 0) :=
  lost_decision_after_silence {} {} rfl (by decide) (by decide)

/-- Without any heartbeat the very first evaluation decides, at the start time. -/
theorem lost_decision_at_start :
    ((init {} {}).store.shouldAlertMissing 0).2 = true ∧
      ¬(init {} {}).store.threshold < 0 - 0 ∧
      (Machine.run step (init {} {}) [.evaluate 0 0 0, .probed .disabled 0 0]).map
        (fun p ↦ p.2.map AlertEvent.title) = some [lostTitle] :=
  ⟨rfl, by decide, rfl⟩

end RemoteSentinel

end WanRouter
