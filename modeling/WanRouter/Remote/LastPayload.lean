import WanRouter.Local.Main
import WanRouter.Remote.HeartbeatStore

/-!
# The payload that the sentinel keeps

`record` keeps the payload that arrived last and never reads its timestamp.  So
the known states are the newest ones as long as no payload overtakes a later one.
-/

namespace WanRouter

open OrderedDict HeartbeatStore

/-- What one call of `build_payload` reads. -/
structure PayloadRequest where
  now : ℤ
  wanStates : Dict String WANState
  recentEvents : List AlertEvent

def PayloadRequest.payload (r : PayloadRequest) : HeartbeatPayload :=
  HeartbeatSender.buildPayload r.now r.wanStates r.recentEvents

namespace HeartbeatStore

def Call.payload? : Call → Option HeartbeatPayload
  | .record _ payload => some payload
  | _ => none

/-- The payloads in the order in which they arrived. -/
def delivered (calls : List Call) : List HeartbeatPayload := calls.filterMap Call.payload?

theorem call_lastPayload (self : HeartbeatStore) (c : Call) :
    (self.call c).1.lastPayload = c.payload?.or self.lastPayload := by
  cases c with
  | record now payload => rfl
  | isMissing now => rfl
  | shouldAlertMissing now =>
      rcases self.shouldAlertMissing_cases now with ⟨-, -, h⟩ | ⟨-, h⟩ <;>
        simp [call, h, Call.payload?]

theorem run_lastPayload (self : HeartbeatStore) (calls : List Call) :
    (Mealy.run call self calls).lastPayload = (delivered calls).getLast?.or self.lastPayload :=
  Mealy.run_lastWrite call lastPayload Call.payload? call_lastPayload self calls

theorem getLastWanStates_run (config : RemoteHeartbeatConfig) (calls : List Call) :
    (Mealy.run call (ofConfig config) calls).getLastWanStates =
      ((delivered calls).getLast?.map HeartbeatPayload.wanStates).getD ∅ := by
  have hlast := run_lastPayload (ofConfig config) calls
  rw [show (ofConfig config).lastPayload = none from rfl, Option.or_none] at hlast
  rw [getLastWanStates, hlast]
  cases (delivered calls).getLast? <;> rfl

/-- Requests at increasing times build different payloads. -/
theorem eq_of_timestamp_eq {sent : List PayloadRequest}
    (hincreasing : (sent.map PayloadRequest.now).Pairwise (· < ·)) {p q : HeartbeatPayload}
    (hp : p ∈ sent.map PayloadRequest.payload) (hq : q ∈ sent.map PayloadRequest.payload)
    (h : p.timestamp = q.timestamp) : p = q := by
  obtain ⟨a, ha, rfl⟩ := List.mem_map.mp hp
  obtain ⟨b, hb, rfl⟩ := List.mem_map.mp hq
  have hnow : a.now = b.now := h
  rw [List.inj_on_of_nodup_map hincreasing.nodup ha hb hnow]

theorem timestamp_le_of_sublist {sent : List PayloadRequest}
    (hincreasing : (sent.map PayloadRequest.now).Pairwise (· < ·)) {l : List HeartbeatPayload}
    (hl : l.Sublist (sent.map PayloadRequest.payload)) {last p : HeartbeatPayload}
    (hlast : l.getLast? = some last) (hp : p ∈ l) : p.timestamp ≤ last.timestamp := by
  have htimes : (sent.map PayloadRequest.payload).map HeartbeatPayload.timestamp =
      sent.map PayloadRequest.now := by
    rw [List.map_map]
    rfl
  have hordered : (l.map HeartbeatPayload.timestamp).Pairwise (· < ·) :=
    (htimes ▸ hincreasing).sublist (hl.map _)
  obtain ⟨l', rfl⟩ := List.getLast?_eq_some_iff.mp hlast
  rw [List.map_append, List.pairwise_append] at hordered
  rcases List.mem_append.mp hp with hp | hp
  · exact Int.le_of_lt (hordered.2.2 _ (List.mem_map_of_mem hp) last.timestamp (by simp))
  · exact Int.le_of_eq (congrArg HeartbeatPayload.timestamp (List.mem_singleton.mp hp))

/-- After every delivery the known states are those of the payload delivered last.  It
is the newest of the delivered payloads exactly if none of them is later, and so it
is as long as the payloads arrive in the order in which they were built. -/
theorem last_states_delivered_last (config : RemoteHeartbeatConfig)
    {sent : List PayloadRequest}
    (hincreasing : (sent.map PayloadRequest.now).Pairwise (· < ·)) {calls : List Call}
    (hdelivered : ∀ p ∈ delivered calls, p ∈ sent.map PayloadRequest.payload)
    {last : HeartbeatPayload} (hlast : (delivered calls).getLast? = some last) :
    (Mealy.run call (ofConfig config) calls).getLastWanStates = last.wanStates ∧
    (∀ newest ∈ delivered calls, (∀ p ∈ delivered calls, p.timestamp ≤ newest.timestamp) →
      (newest = last ↔ ∀ p ∈ delivered calls, p.timestamp ≤ last.timestamp)) ∧
    ((delivered calls).Sublist (sent.map PayloadRequest.payload) →
      ∀ p ∈ delivered calls, p.timestamp ≤ last.timestamp) := by
  have hmem : last ∈ delivered calls := List.mem_of_getLast? hlast
  refine ⟨?_, ?_, ?_⟩
  · rw [getLastWanStates_run, hlast]
    rfl
  · intro newest hnewest hgreatest
    constructor
    · rintro rfl
      exact hgreatest
    · intro hall
      exact eq_of_timestamp_eq hincreasing (hdelivered newest hnewest) (hdelivered last hmem)
        (Int.le_antisymm (hall newest hnewest) (hgreatest last hmem))
  · exact fun hsublist p hp ↦ timestamp_le_of_sublist hincreasing hsublist hlast hp

def requestAt (now : ℤ) (status : InterfaceStatus) : PayloadRequest where
  now := now
  wanStates := Dict.ofList [("WAN1", { interface := "WAN1", status := status, since := now })]
  recentEvents := []

/-- Two heartbeats, of which the first arrives after the second. -/
def overtaken : List Call :=
  [.record 61 (requestAt 60 .down).payload, .record 62 (requestAt 0 .up).payload]

theorem last_states_overtaken :
    (Mealy.run call (ofConfig {}) overtaken).getLastWanStates =
      (requestAt 0 .up).payload.wanStates :=
  have hincreasing : ([requestAt 0 .up, requestAt 60 .down].map PayloadRequest.now).Pairwise
      (· < ·) := by decide
  (last_states_delivered_last {} hincreasing (by decide) rfl).1

/-- The newest payload reports WAN1 as DOWN and the known states have it as UP. -/
theorem overtaken_states_outdated :
    ([requestAt 0 .up, requestAt 60 .down].map PayloadRequest.now).Pairwise (· < ·) ∧
      (∀ p ∈ delivered overtaken, p.timestamp ≤ (requestAt 60 .down).payload.timestamp) ∧
      (requestAt 60 .down).payload ∈ delivered overtaken ∧
      (Mealy.run call (ofConfig {}) overtaken).getLastWanStates ≠
        (requestAt 60 .down).payload.wanStates := by
  decide

end HeartbeatStore

end WanRouter
