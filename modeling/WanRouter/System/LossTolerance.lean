import Mathlib.Data.List.Flatten
import WanRouter.Lib.Freshness
import WanRouter.System.WatchedRouter

/-!
# How many heartbeats may be lost

On one clock, the sentinel stays quiet about a monitor whose heartbeats come at
most a period apart, as long as the threshold covers the delay of the network and
the periods of the heartbeats that may be lost in a row.
-/

namespace WanRouter

open HeartbeatStore Relay

namespace WatchedRouter

/-- The readings at which heartbeats are built and recorded. -/
def heartbeatReadings : SystemEvent → List ℤ
  | .sender (.heartbeat now) => [now]
  | .deliver _ now => [now]
  | _ => []

def builtAt? : SystemEvent → Option ℤ
  | .sender (.heartbeat now) => some now
  | _ => none

def builtTimes (es : List SystemEvent) : List ℤ := es.filterMap builtAt?

/-- The heartbeat built at this time was recorded. -/
def HasArrived (s : WatchedRouter) (es : List SystemEvent) (built : ℤ) : Prop :=
  ∃ q ∈ recorded s es, q.2.timestamp = built

variable {config : LocalConfig} {telegram remoteTelegram : TelegramNotifier}
  {remote : RemoteHeartbeatConfig} {es : List SystemEvent} {s : WatchedRouter}
  {out : List SystemOutput}

theorem builtTimes_append (es es' : List SystemEvent) :
    builtTimes (es ++ es') = builtTimes es ++ builtTimes es' := List.filterMap_append

theorem builtTimes_sublist (es : List SystemEvent) :
    (builtTimes es).Sublist (es.flatMap heartbeatReadings) := by
  rw [builtTimes, List.filterMap_eq_flatMap_toList]
  apply List.Sublist.flatMap_right
  intro e _
  cases e with
  | sender e => cases e <;> simp [builtAt?, heartbeatReadings]
  | _ => exact List.nil_sublist _

theorem arrivals_sublist (s : WatchedRouter) (es : List SystemEvent) :
    ((recorded s es).map Prod.fst).Sublist (es.flatMap heartbeatReadings) := by
  rw [recorded, ← RemoteSentinel.recordTimes_eq, RemoteSentinel.recordTimes, receiverEvents,
    Machine.filterMap_translated]
  apply Machine.translated_sublist
  intro s e
  cases e with
  | sender e => exact List.nil_sublist _
  | lose i => exact List.nil_sublist _
  | receiver e =>
      rw [toReceiver]
      by_cases hown : parties.isOwn e = true
      · rw [if_pos hown]
        cases e with
        | record now payload => cases hown
        | _ => exact List.nil_sublist _
      · rw [if_neg hown]
        exact List.nil_sublist _
  | deliver i x =>
      cases hmessage : s.inFlight[i]? with
      | none => simp [toReceiver, hmessage]
      | some payload => simp [toReceiver, hmessage, parties, SentinelEvent.recordedAt?,
          heartbeatReadings]

/-- A recorded heartbeat was built before it arrived, and it carries the time of that. -/
theorem timestamp_of_recorded
    (hrun : Machine.run step (init config telegram remote remoteTelegram) es = some (s, out))
    (hclock : (es.flatMap heartbeatReadings).Pairwise (· ≤ ·)) {q : ℤ × HeartbeatPayload}
    (hq : q ∈ recorded (init config telegram remote remoteTelegram) es) :
    q.2.timestamp ∈ builtTimes es ∧ q.2.timestamp ≤ q.1 := by
  obtain ⟨arrived, payload⟩ := q
  obtain ⟨pre, built, mid, i, post, m, o, rfl, -, rfl⟩ := built_of_recorded hrun hq
  constructor
  · rw [builtTimes_append]
    exact List.mem_append_right _ List.mem_cons_self
  · rw [List.flatMap_append, List.pairwise_append] at hclock
    have hafter := hclock.2.1
    rw [List.flatMap_cons, heartbeatReadings, List.singleton_append, List.pairwise_cons] at hafter
    apply hafter.1
    simp [heartbeatReadings]

/-- As long as heartbeats are built at most `period` apart, at most `losses` in a row are not
recorded within `delay`, and the threshold covers the delay and `losses + 1` periods, the
sentinel does not decide that the monitor is lost once it has heard from it. -/
theorem no_decision_despite_losses (config : LocalConfig) (telegram : TelegramNotifier)
    (remote : RemoteHeartbeatConfig) (remoteTelegram : TelegramNotifier)
    {es : List SystemEvent} {s : WatchedRouter} {out : List SystemOutput}
    {period delay now : ℤ} {losses : ℕ}
    (hrun : Machine.run step (init config telegram remote remoteTelegram) es = some (s, out))
    (hclock : (es.flatMap heartbeatReadings ++ [now]).Pairwise (· ≤ ·)) (hdelay : 0 ≤ delay)
    (hperiod : (builtTimes es ++ [now]).IsChain fun earlier later ↦ later ≤ earlier + period)
    (hlosses : ∀ window, window <:+: builtTimes es → window.length = losses + 1 →
      (∀ built ∈ window, built + delay ≤ now) →
        ∃ built ∈ window, HasArrived (init config telegram remote remoteTelegram) es built)
    (hheard : recorded (init config telegram remote remoteTelegram) es ≠ [])
    (hthreshold : delay + (losses + 1) * period ≤
      remote.expectedInterval * remote.missedThreshold * microsPerSecond) :
    (s.receiver.store.shouldAlertMissing now).2 = false := by
  have hreadings := (List.pairwise_append.mp hclock).1
  have hsorted : (builtTimes es ++ [now]).Pairwise (· ≤ ·) :=
    hclock.sublist ((builtTimes_sublist es).append_right [now])
  have hsome : ∃ built ∈ builtTimes es,
      HasArrived (init config telegram remote remoteTelegram) es built := by
    obtain ⟨q, hq⟩ := List.exists_mem_of_ne_nil _ hheard
    exact ⟨q.2.timestamp, (timestamp_of_recorded hrun hreadings hq).1, q, hq, rfl⟩
  obtain ⟨-, -, ⟨q, hq, rfl⟩, hfresh⟩ := Freshness.exists_fresh hdelay hsorted hperiod hlosses
    hsome
  have hbuilt := (timestamp_of_recorded hrun hreadings hq).2
  -- The heartbeat recorded last is not older than the fresh one.
  obtain ⟨last, hlast⟩ := Option.isSome_iff_exists.mp (List.getLast?_isSome.mpr
    (List.ne_nil_of_mem (List.mem_map_of_mem (f := Prod.fst) hq)))
  have hle := RemoteSentinel.le_getLast?_of_pairwise
    (hreadings.sublist (arrivals_sublist _ es)) (List.mem_map_of_mem hq) hlast
  have hpresent : s.receiver.store.isMissing now = false := by
    rw [← Bool.not_eq_true, RemoteSentinel.isMissing_iff_silent (run_receiver hrun),
      RemoteSentinel.recordTimes_eq]
    intro hsilent
    have hold := hsilent last hlast
    omega
  rcases s.receiver.store.shouldAlertMissing_cases now with ⟨hmissing, -, -⟩ | ⟨-, h⟩
  · rw [hpresent] at hmissing
    cases hmissing
  · rw [h]

/-- Of two heartbeats, a minute apart, the second is lost. -/
def oneLost : List SystemEvent :=
  [.sender (.heartbeat 0), .deliver 0 1000000, .sender (.heartbeat 60000000), .lose 0]

theorem no_decision_oneLost :
    ∃ s out, Machine.run step (init { router := dualWan } {} {} {}) oneLost = some (s, out) ∧
      (s.receiver.store.shouldAlertMissing 120000000).2 = false := by
  obtain ⟨s, out, hrun⟩ : ∃ s out,
      Machine.run step (init { router := dualWan } {} {} {}) oneLost = some (s, out) := ⟨_, _, rfl⟩
  have hlosses : ∀ window, window <:+: builtTimes oneLost → window.length = 1 + 1 →
      (∀ built ∈ window, built + 60000000 ≤ 120000000) →
        ∃ built ∈ window,
          HasArrived (init { router := dualWan } {} {} {}) oneLost built := by
    intro window hwindow hlength _
    obtain rfl : window = [0, 60000000] := hwindow.eq_of_length hlength
    exact ⟨0, by simp, _, List.mem_cons_self, rfl⟩
  have hperiod : (builtTimes oneLost ++ [120000000]).IsChain fun earlier later ↦
      later ≤ earlier + 60000000 := by decide
  exact ⟨s, out, hrun, no_decision_despite_losses _ _ _ _ hrun (by decide) (by decide) hperiod
    hlosses (List.cons_ne_nil _ _) (by decide)⟩

end WatchedRouter

end WanRouter
