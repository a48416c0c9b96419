import WanRouter.Local.Main

/-!
# The states that heartbeats carry

The engine records the states of a poll one by one, and a send may suspend the
loop between two of them.  A heartbeat carries the states of the last poll as
long as the states that are not processed yet are recorded already.
-/

namespace WanRouter

open OrderedDict SNMPPoller

def MonitorOutput.polled? : MonitorOutput → Option (Dict String WANState)
  | .polled states => some states
  | _ => none

def MonitorOutput.heartbeat? : MonitorOutput → Option HeartbeatPayload
  | .heartbeat payload => some payload
  | _ => none

namespace LocalMonitor

def polledStates (out : List MonitorOutput) : List (Dict String WANState) :=
  out.filterMap MonitorOutput.polled?

/-- The states of the last poll; empty before the first. -/
def lastPolled (out : List MonitorOutput) : Dict String WANState :=
  (polledStates out).getLast?.getD ∅

/-- The states of the current poll that are still to be processed. -/
def unprocessed (self : LocalMonitor) : List WANState :=
  match self.position with
  | .processing _ _ remaining => remaining
  | .sending _ _ remaining _ _ => remaining
  | _ => []

/-- What is still to be processed is recorded already. -/
def UpToDate (self : LocalMonitor) : Prop :=
  ∀ state ∈ self.unprocessed,
    self.alertEngine.previousWan.get? state.interface = some state

/-- A heartbeat, or a send that raises, happens when the engine is up to date. -/
def SnapshotSafe (self : LocalMonitor) : MonitorEvent → Prop
  | .heartbeat _ => self.UpToDate
  | .sendDone reply => (∃ alert, self.telegram.sendAlert alert reply = .raised) → self.UpToDate
  | _ => True

/-- The states of at most one WAN are UP. -/
def AtMostOneUp (states : Dict String WANState) : Prop :=
  ∀ a b, reportsUp states a → reportsUp states b → a = b

/-- Every heartbeat carries the states of the last poll before it. -/
def HeartbeatsConsistent (out : List MonitorOutput) : Prop :=
  ∀ before payload after, out = before ++ .heartbeat payload :: after →
    (∀ name, payload.wanStates.get? name = (lastPolled before).get? name) ∧
      AtMostOneUp payload.wanStates

theorem polledStates_append (out o : List MonitorOutput) :
    polledStates (out ++ o) = polledStates out ++ polledStates o := List.filterMap_append

theorem polledStates_dispatched (alerts : List AlertEvent) :
    polledStates (alerts.map .dispatched) = [] := by
  simp [polledStates, MonitorOutput.polled?]

theorem lastPolled_append (out : List MonitorOutput) {o : List MonitorOutput}
    (h : polledStates o = []) : lastPolled (out ++ o) = lastPolled out := by
  rw [lastPolled, polledStates_append, h, List.append_nil, lastPolled]

theorem lastPolled_concat_polled (out : List MonitorOutput) (states : Dict String WANState) :
    lastPolled (out ++ [.polled states]) = states := by
  simp [lastPolled, polledStates, MonitorOutput.polled?]

theorem HeartbeatsConsistent.concat {out : List MonitorOutput} (h : HeartbeatsConsistent out)
    {x : MonitorOutput}
    (hx : ∀ payload, x = .heartbeat payload →
      (∀ name, payload.wanStates.get? name = (lastPolled out).get? name) ∧
        AtMostOneUp payload.wanStates) :
    HeartbeatsConsistent (out ++ [x]) := by
  intro before payload after hsplit
  rcases Machine.concat_eq_append_cons hsplit with ⟨-, rfl, heq⟩ | ⟨after', -, hbefore⟩
  · exact hx payload heq.symm
  · exact h before payload after' hbefore

theorem HeartbeatsConsistent.append {out o : List MonitorOutput} (h : HeartbeatsConsistent out)
    (ho : ∀ x ∈ o, ∀ payload, x ≠ .heartbeat payload) : HeartbeatsConsistent (out ++ o) := by
  induction o generalizing out with
  | nil => simpa using h
  | cons x o ih =>
      rw [List.append_cons]
      apply ih
      · exact h.concat fun payload hx ↦ absurd hx (ho x (by simp) payload)
      · exact fun y hy ↦ ho y (by simp [hy])

/-! ## The invariant -/

structure SnapshotInvariant (m : LocalMonitor) (out : List MonitorOutput) : Prop where
  known : ∀ state ∈ m.unprocessed, state.interface ∈ m.poller.wanGateways.keys
  configured : ∀ name ∉ m.poller.wanGateways.keys, m.alertEngine.previousWan.get? name = none
  pending : ∀ state ∈ m.unprocessed, (lastPolled out).get? state.interface = some state
  recorded : ∀ name ∉ m.unprocessed.map WANState.interface,
    m.alertEngine.previousWan.get? name = (lastPolled out).get? name
  oneUp : AtMostOneUp (lastPolled out)
  consistent : HeartbeatsConsistent out

variable {m m' : LocalMonitor} {e : MonitorEvent} {out o : List MonitorOutput}

theorem SnapshotInvariant.snapshot (h : SnapshotInvariant m out) (hup : m.UpToDate)
    (name : String) : m.alertEngine.previousWan.get? name = (lastPolled out).get? name := by
  by_cases hname : name ∈ m.unprocessed.map WANState.interface
  · obtain ⟨state, hstate, rfl⟩ := List.mem_map.mp hname
    rw [hup state hstate, h.pending state hstate]
  · exact h.recorded name hname

theorem AtMostOneUp.congr {d d' : Dict String WANState} (h : AtMostOneUp d')
    (heq : ∀ name, d.get? name = d'.get? name) : AtMostOneUp d := by
  intro a b ha hb
  rw [reportsUp, heq] at ha hb
  exact h a b ha hb

theorem atMostOneUp_states (poller : SNMPPoller) (input : PollInput) :
    AtMostOneUp (poller.states input) := by
  intro a b ha hb
  rw [reportsUp_states_iff] at ha hb
  exact Option.some.inj (ha.symm.trans hb)

/-- A step that keeps the engine, the poller's map and what is unprocessed, and that
sends no heartbeat, keeps the invariant. -/
theorem SnapshotInvariant.frame (h : SnapshotInvariant m out)
    (hengine : m'.alertEngine = m.alertEngine)
    (hgateways : m'.poller.wanGateways = m.poller.wanGateways)
    (hunprocessed : m'.unprocessed = m.unprocessed)
    (hpolled : polledStates o = [])
    (ho : ∀ x ∈ o, ∀ payload, x ≠ .heartbeat payload) : SnapshotInvariant m' (out ++ o) where
  known := by rw [hunprocessed, hgateways]; exact h.known
  configured := by rw [hgateways, hengine]; exact h.configured
  pending := by rw [hunprocessed, lastPolled_append out hpolled]; exact h.pending
  recorded := by
    rw [hunprocessed, hengine, lastPolled_append out hpolled]
    exact h.recorded
  oneUp := by rw [lastPolled_append out hpolled]; exact h.oneUp
  consistent := h.consistent.append ho

@[simp] theorem deliver_alertEngine (m : LocalMonitor) (interval : ℤ)
    (allStates : Dict String WANState) (remaining : List WANState) (alerts : List AlertEvent) :
    (m.deliver interval allStates remaining alerts).alertEngine = m.alertEngine := by
  cases alerts <;> rfl

@[simp] theorem deliver_poller (m : LocalMonitor) (interval : ℤ)
    (allStates : Dict String WANState) (remaining : List WANState) (alerts : List AlertEvent) :
    (m.deliver interval allStates remaining alerts).poller = m.poller := by
  cases alerts <;> rfl

@[simp] theorem unprocessed_deliver (m : LocalMonitor) (interval : ℤ)
    (allStates : Dict String WANState) (remaining : List WANState) (alerts : List AlertEvent) :
    (m.deliver interval allStates remaining alerts).unprocessed = remaining := by
  cases alerts <;> rfl

theorem SnapshotInvariant.polled (h : SnapshotInvariant m out) (input : PollInput)
    (interval : ℤ) :
    SnapshotInvariant
      { m with
        poller := (m.poller.poll input).1
        position := .processing interval (m.poller.states input)
          (m.poller.states input).values }
      (out ++ [.polled (m.poller.states input)]) := by
  have hvalues : ∀ state ∈ (m.poller.states input).values,
      state.interface ∈ m.poller.wanGateways.keys ∧
        (m.poller.states input).get? state.interface = some state := by
    intro state hstate
    rw [values_states] at hstate
    obtain ⟨name, hname, rfl⟩ := List.mem_map.mp hstate
    exact ⟨hname, m.poller.get?_states input hname⟩
  refine ⟨fun state hstate ↦ (hvalues state hstate).1, h.configured, ?_, ?_, ?_, ?_⟩
  · rw [lastPolled_concat_polled]
    exact fun state hstate ↦ (hvalues state hstate).2
  · intro name hname
    have hnot : name ∉ m.poller.wanGateways.keys := by
      intro hmem
      apply hname
      change name ∈ (m.poller.states input).values.map WANState.interface
      rw [values_states, List.map_map]
      exact List.mem_map.mpr ⟨name, hmem, rfl⟩
    have hnone : (m.poller.states input).get? name = none :=
      Dict.get?_eq_none_iff.mpr (by rwa [keys_states])
    rw [lastPolled_concat_polled, hnone]
    exact h.configured name hnot
  · rw [lastPolled_concat_polled]
    exact atMostOneUp_states m.poller input
  · exact h.consistent.concat fun payload hx ↦ by cases hx

theorem SnapshotInvariant.process (h : SnapshotInvariant m out) (now : ℤ) {interval : ℤ}
    {allStates : Dict String WANState} {state : WANState} {remaining : List WANState}
    (hpos : m.position = .processing interval allStates (state :: remaining)) :
    SnapshotInvariant
      (deliver
        { m with alertEngine := (m.alertEngine.processWanState now state (some allStates)).1 }
        interval allStates remaining
        (m.alertEngine.processWanState now state (some allStates)).2) (out ++ []) := by
  have hunprocessed : m.unprocessed = state :: remaining := by rw [unprocessed, hpos]
  have hknown := h.known
  have hpending := h.pending
  have hrecorded := h.recorded
  rw [hunprocessed] at hknown hpending hrecorded
  rw [List.append_nil]
  refine ⟨?_, ?_, ?_, ?_, h.oneUp, h.consistent⟩
  · rw [unprocessed_deliver, deliver_poller]
    exact fun s hs ↦ hknown s (by simp [hs])
  · rw [deliver_poller, deliver_alertEngine]
    intro name hname
    have hne : name ≠ state.interface := fun heq ↦ hname (heq ▸ hknown state (by simp))
    exact (Dict.get?_set_of_ne _ _ hne).trans (h.configured name hname)
  · rw [unprocessed_deliver]
    exact fun s hs ↦ hpending s (by simp [hs])
  · rw [unprocessed_deliver, deliver_alertEngine]
    intro name hname
    by_cases heq : name = state.interface
    · subst heq
      exact (Dict.get?_set_self _ _ _).trans (hpending state (by simp)).symm
    · refine (Dict.get?_set_of_ne _ _ heq).trans (hrecorded name ?_)
      simp [heq, hname]

theorem SnapshotInvariant.step (h : SnapshotInvariant m out) (hsafe : m.SnapshotSafe e)
    (htrans : Transition m e m' o) : SnapshotInvariant m' (out ++ o) := by
  cases htrans with
  | startPoll hpos => exact h.frame rfl rfl (by simp [unprocessed, hpos]) rfl (by simp)
  | polled input interval hpos => exact h.polled input interval
  | process now hpos => exact h.process now hpos
  | finish hpos => exact h.frame rfl rfl (by simp [unprocessed, hpos]) rfl (by simp)
  | sendReturned reply ok hpos hresult =>
      exact h.frame (deliver_alertEngine ..) (by rw [deliver_poller])
        (by rw [unprocessed_deliver, unprocessed, hpos]) rfl (by simp)
  | @sendRaised reply _ _ _ alert _ hpos hresult =>
      -- The rest of the poll is dropped, but it was recorded already.
      have hsnapshot := h.snapshot (hsafe ⟨alert, hresult⟩)
      have hpolled : lastPolled (out ++ [.sent alert .raised, .slept 10]) = lastPolled out :=
        lastPolled_append out rfl
      refine ⟨by simp [unprocessed], h.configured, by simp [unprocessed], ?_, ?_,
        h.consistent.append (by simp)⟩
      · exact fun name _ ↦ (hsnapshot name).trans (by rw [hpolled])
      · rw [hpolled]
        exact h.oneUp
  | heartbeat now hsuspended =>
      have hpolled : lastPolled (out ++ [.heartbeat (m.heartbeatPayload now)]) =
          lastPolled out := lastPolled_append out rfl
      refine ⟨h.known, h.configured, ?_, ?_, ?_, h.consistent.concat ?_⟩
      · rw [hpolled]
        exact h.pending
      · rw [hpolled]
        exact h.recorded
      · rw [hpolled]
        exact h.oneUp
      · rintro payload heq
        cases heq
        exact ⟨h.snapshot hsafe, h.oneUp.congr (h.snapshot hsafe)⟩
  | syslog now event hsuspended =>
      exact h.frame rfl rfl rfl (polledStates_dispatched _) (by simp)

theorem snapshotInvariant_init (config : LocalConfig) (telegram : TelegramNotifier) :
    SnapshotInvariant (init config telegram) [] where
  known := by simp [init, unprocessed]
  configured := fun _ _ ↦ rfl
  pending := by simp [init, unprocessed]
  recorded := fun _ _ ↦ rfl
  oneUp := fun _ _ ha _ ↦ by simp [lastPolled, polledStates, reportsUp] at ha
  consistent := fun _ _ _ hsplit ↦ by simp at hsplit

/-- If heartbeats and raising sends only happen while the engine is up to date, every
heartbeat carries the states of one poll, the last one, or none before the first. -/
theorem heartbeats_carry_last_poll (config : LocalConfig) (telegram : TelegramNotifier)
    {es : List MonitorEvent} {m : LocalMonitor} {out : List MonitorOutput}
    (hrun : Machine.run step (init config telegram) es = some (m, out))
    (hsafe : Machine.Along step SnapshotSafe (init config telegram) es) :
    ∀ before payload after, out = before ++ .heartbeat payload :: after →
      (∀ name, payload.wanStates.get? name = (lastPolled before).get? name) ∧
        AtMostOneUp payload.wanStates :=
  (Machine.run_invariant step (I := SnapshotInvariant)
    (fun _ _ _ _ _ hok h hstep ↦ h.step hok (transition_of_step hstep))
    (snapshotInvariant_init config telegram) hrun hsafe).consistent

/-- A heartbeat while the alert of the last state of the first poll is being sent. -/
def settledTrace : List MonitorEvent :=
  [.startPoll, .polled (Round.answering "10.0.0.1").input, .process 0, .process 0, .heartbeat 0]

theorem settledTrace_heartbeat :
    ∃ m out, Machine.run step (init { router := dualWan } {}) settledTrace = some (m, out) ∧
      (out.filterMap MonitorOutput.heartbeat?).map
        (fun payload ↦ payload.wanStates.values.map WANState.status) = [[.up, .down]] ∧
      HeartbeatsConsistent out := by
  have hsafe : Machine.Along step SnapshotSafe (init { router := dualWan } {}) settledTrace := by
    refine ⟨trivial, ?_⟩
    rintro _ _ ⟨⟩
    refine ⟨trivial, ?_⟩
    rintro _ _ ⟨⟩
    refine ⟨trivial, ?_⟩
    rintro _ _ ⟨⟩
    refine ⟨trivial, ?_⟩
    rintro _ _ ⟨⟩
    exact ⟨fun _ hstate ↦ (nomatch hstate), fun _ _ _ ↦ trivial⟩
  exact ⟨_, _, rfl, rfl, heartbeats_carry_last_poll { router := dualWan } {} rfl hsafe⟩

/-- The route moves from WAN2 to WAN1, and a heartbeat is sent while the alert for
WAN1 is: the engine holds the new state of WAN1 and the old one of WAN2. -/
def failoverTrace : List MonitorEvent :=
  [.startPoll, .polled (Round.answering "10.0.0.2").input, .process 0, .sendDone .delivered,
    .process 0, .finish, .startPoll, .polled (Round.answering "10.0.0.1").input, .process 0,
    .heartbeat 0]

theorem heartbeat_reports_two_up :
    (Machine.run step (init { router := dualWan } {}) failoverTrace).map
      (fun p ↦ (p.2.filterMap MonitorOutput.heartbeat?).map fun payload ↦
        payload.wanStates.items.map fun q ↦ (q.1, q.2.status)) =
      some [[("WAN1", .up), ("WAN2", .up)]] := by
  decide

end LocalMonitor

end WanRouter
