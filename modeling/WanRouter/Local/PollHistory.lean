import WanRouter.Lib.Machine
import WanRouter.Lib.Periods
import WanRouter.Local.MockSnmpPoller

/-!
# The history of the polls

Both pollers carry the `since` of a WAN over from one poll to the next while its
status does not change.  This is one abstract run of polls, which both refine; in
it every `since` is the time of the first poll of the current status period.
-/

namespace WanRouter

open OrderedDict Periods SNMPPoller

structure PollRecord where
  now : ℤ
  states : Dict String WANState

/-- What a poll finds out about every WAN. -/
structure Reading where
  now : ℤ
  status : String → InterfaceStatus
  linkUp : String → Option Bool

namespace Reading

def wanState (r : Reading) (lastStates : Dict String WANState) (name : String) : WANState where
  interface := name
  status := r.status name
  since := carriedSince lastStates name (r.status name) r.now
  linkUp := r.linkUp name

def states (r : Reading) (wanGateways : Dict String String)
    (lastStates : Dict String WANState) : Dict String WANState :=
  wanGateways.mapItems fun name _gateway ↦ r.wanState lastStates name

theorem get?_states (r : Reading) {wanGateways : Dict String String}
    (lastStates : Dict String WANState) {name : String} (h : name ∈ wanGateways.keys) :
    (r.states wanGateways lastStates).get? name = some (r.wanState lastStates name) := by
  obtain ⟨gateway, hg⟩ := Dict.exists_get?_of_mem_keys h
  simp only [states, Dict.get?_mapItems, hg, Option.map_some]

end Reading

/-- A run of polls: the states of the last poll and the records of all. -/
inductive PollRun (wanGateways : Dict String String) :
    Dict String WANState → List PollRecord → Prop
  | start : PollRun wanGateways ∅ []
  | poll {lastStates : Dict String WANState} {history : List PollRecord}
      (h : PollRun wanGateways lastStates history) (r : Reading) :
      PollRun wanGateways (r.states wanGateways lastStates)
        (history ++ [⟨r.now, r.states wanGateways lastStates⟩])

def statusIn (name : String) (p : PollRecord) : Option InterfaceStatus :=
  (p.states.get? name).map WANState.status

/-- Every poll lists each configured WAN once, and its `since` is the time of the first
poll from which on the status was the same. -/
def SinceLaw (wanGateways : Dict String String) (history : List PollRecord) : Prop :=
  ∀ before p after, history = before ++ p :: after →
    p.states.keys = wanGateways.keys ∧
    ∀ name ∈ wanGateways.keys, ∃ state, p.states.get? name = some state ∧
      state.interface = name ∧
      ∃ (k : ℕ) (q : PollRecord), IsLeast {k | ∀ j, k ≤ j → ∀ x ∈ (before ++ [p])[j]?,
          statusIn name x = some state.status} k ∧
        (before ++ [p])[k]? = some q ∧ state.since = q.now

/-- The state of a WAN and the status period it belongs to. -/
structure InPeriod (name : String) (history : List PollRecord) (state : WANState)
    (pre : List PollRecord) (q : PollRecord) (post : List PollRecord) : Prop where
  interface : state.interface = name
  period : LastPeriod (statusIn name) history pre q post
  status : statusIn name q = some state.status
  since : state.since = q.now

variable {wanGateways : Dict String String} {lastStates : Dict String WANState}
  {history : List PollRecord} {name : String}

theorem InPeriod.poll {state : WANState} {pre post : List PollRecord} {q : PollRecord}
    (h : InPeriod name history state pre q post) (hstate : lastStates.get? name = some state)
    (r : Reading) (hname : name ∈ wanGateways.keys) :
    ∃ pre q post, InPeriod name (history ++ [⟨r.now, r.states wanGateways lastStates⟩])
      (r.wanState lastStates name) pre q post := by
  have hview : statusIn name ⟨r.now, r.states wanGateways lastStates⟩ =
      some (r.status name) := by
    simp only [statusIn, r.get?_states lastStates hname, Option.map_some, Reading.wanState]
  have hsince : (r.wanState lastStates name).since =
      if state.status = r.status name then state.since else r.now := by
    simp only [Reading.wanState, carriedSince, hstate]
  obtain ⟨pre', q', post', hperiod, hstatus, hnow⟩ :=
    h.period.mark PollRecord.now ⟨r.now, r.states wanGateways lastStates⟩
  refine ⟨pre', q', post', rfl, hperiod, hstatus.trans hview, ?_⟩
  rw [hsince, hnow, hview, h.status, h.since]
  simp only [Option.some.injEq, eq_comm]

/-- The carried states are those of the last poll, each in its status period. -/
theorem PollRun.inPeriod (h : PollRun wanGateways lastStates history)
    (hname : name ∈ wanGateways.keys) (hne : history ≠ []) :
    ∃ state pre q post, lastStates.get? name = some state ∧
      InPeriod name history state pre q post := by
  induction h with
  | start => exact absurd rfl hne
  | @poll lastStates history h r ih =>
      refine ⟨r.wanState lastStates name, ?_⟩
      have hget := r.get?_states lastStates hname
      by_cases hfirst : history = []
      · subst hfirst
        have hlast : lastStates = ∅ := by
          generalize hnil : ([] : List PollRecord) = records at h
          cases h with
          | start => rfl
          | poll h r => simp at hnil
        subst hlast
        refine ⟨[], _, [], hget, rfl, LastPeriod.start (by simp), ?_, rfl⟩
        simp only [statusIn, hget, Option.map_some]
      · obtain ⟨state, pre, q, post, hstate, hperiod⟩ := ih hfirst
        obtain ⟨pre', q', post', hnext⟩ := hperiod.poll hstate r hname
        exact ⟨pre', q', post', hget, hnext⟩

/-- Every record of a run ends a run of its own. -/
theorem PollRun.take (h : PollRun wanGateways lastStates history)
    {before after : List PollRecord} {p : PollRecord}
    (hsplit : history = before ++ p :: after) :
    PollRun wanGateways p.states (before ++ [p]) ∧ p.states.keys = wanGateways.keys := by
  induction h generalizing after with
  | start => simp at hsplit
  | @poll lastStates history h r ih =>
      rcases Machine.concat_eq_append_cons hsplit with ⟨-, rfl, rfl⟩ | ⟨after', -, hbefore⟩
      · exact ⟨.poll h r, Dict.keys_mapItems _ _⟩
      · exact ih hbefore

theorem PollRun.sinceLaw (h : PollRun wanGateways lastStates history) :
    SinceLaw wanGateways history := by
  intro before p after hsplit
  obtain ⟨hrun, hkeys⟩ := h.take hsplit
  refine ⟨hkeys, ?_⟩
  intro name hname
  obtain ⟨state, pre, q, post, hstate, hperiod⟩ := hrun.inPeriod hname (by simp)
  refine ⟨state, hstate, hperiod.interface, pre.length, q, ?_, ?_, hperiod.since⟩
  · simpa only [hperiod.status] using hperiod.period.isLeast
  · simp [hperiod.period.split]

/-! ## The pollers refine the run -/

namespace SNMPPoller

def reading (self : SNMPPoller) (input : PollInput) : Reading where
  now := input.now
  status := fun name ↦
    if self.activeWan (getNextHop input.nextHop) = some name then .up else .down
  linkUp := (self.getIfOperStatus input.links).get?

theorem states_eq (self : SNMPPoller) (input : PollInput) :
    self.states input = (self.reading input).states self.wanGateways self.lastStates := rfl

def record (self : SNMPPoller) (input : PollInput) : SNMPPoller × PollRecord :=
  let polled := self.poll input
  (polled.1, ⟨input.now, polled.2⟩)

/-- The records of the polls of a new poller. -/
def pollHistory (wanGateways : Dict String String) (wanInterfaces : Dict String ℤ)
    (inputs : List PollInput) : List PollRecord :=
  Mealy.outputs record { wanGateways := wanGateways, wanInterfaces := wanInterfaces } inputs

theorem pollRun (wanGateways : Dict String String) (wanInterfaces : Dict String ℤ)
    (inputs : List PollInput) :
    ∃ lastStates, PollRun wanGateways lastStates
      (pollHistory wanGateways wanInterfaces inputs) := by
  let fresh : SNMPPoller := { wanGateways := wanGateways, wanInterfaces := wanInterfaces }
  refine ⟨(Mealy.run record fresh inputs).lastStates, ?_⟩
  induction inputs using List.reverseRecOn with
  | nil => exact .start
  | append_singleton inputs input ih =>
      have hgateways : (Mealy.run record fresh inputs).wanGateways = wanGateways :=
        Mealy.run_frame record SNMPPoller.wanGateways (fun _ _ ↦ rfl) fresh inputs
      have hstates : (Mealy.run record fresh inputs).states input =
          ((Mealy.run record fresh inputs).reading input).states wanGateways
            (Mealy.run record fresh inputs).lastStates := by rw [states_eq, hgateways]
      have hpoll := ih.poll ((Mealy.run record fresh inputs).reading input)
      rw [← hstates] at hpoll
      rw [pollHistory, Mealy.outputs_append, Mealy.run_append]
      exact hpoll

/-! ### What the links do not change -/

/-- A state without its link. -/
def unlinked (state : WANState) : String × InterfaceStatus × ℤ :=
  (state.interface, state.status, state.since)

def unlinkedStates (states : Dict String WANState) :
    Dict String (String × InterfaceStatus × ℤ) := states.mapItems fun _name ↦ unlinked

theorem carriedSince_congr {lastStates lastStates' : Dict String WANState}
    (h : unlinkedStates lastStates = unlinkedStates lastStates') (name : String)
    (status : InterfaceStatus) (now : ℤ) :
    carriedSince lastStates name status now = carriedSince lastStates' name status now := by
  have hget := congrArg (fun d ↦ d.get? name) h
  simp only [unlinkedStates, Dict.get?_mapItems] at hget
  cases hs : lastStates.get? name <;> cases hs' : lastStates'.get? name <;>
    simp_all [carriedSince, unlinked]

variable {self other : SNMPPoller} {input input' : PollInput}

theorem unlinkedStates_congr (hgateways : self.wanGateways = other.wanGateways)
    (hlast : unlinkedStates self.lastStates = unlinkedStates other.lastStates)
    (hnow : input.now = input'.now) (hhop : input.nextHop = input'.nextHop) :
    unlinkedStates (self.states input) = unlinkedStates (other.states input') := by
  have hstate : ∀ name, unlinked (self.wanState input name) =
      unlinked (other.wanState input' name) := by
    intro name
    simp only [unlinked, wanState, hhop, hnow, activeWan_congr hgateways,
      carriedSince_congr hlast]
  apply Dict.ext
  simp only [unlinkedStates, states, Dict.mapItems, List.map_map, hgateways]
  apply List.map_congr_left
  intro p _
  exact congrArg (Prod.mk p.1) (hstate p.1)

theorem map_unlinked_congr (hgateways : self.wanGateways = other.wanGateways)
    (hlast : unlinkedStates self.lastStates = unlinkedStates other.lastStates)
    {inputs inputs' : List PollInput}
    (h : List.Forall₂ (fun x x' ↦ x.now = x'.now ∧ x.nextHop = x'.nextHop) inputs inputs') :
    (Mealy.outputs record self inputs).map (fun p ↦ (p.now, unlinkedStates p.states)) =
      (Mealy.outputs record other inputs').map fun p ↦ (p.now, unlinkedStates p.states) := by
  induction h generalizing self other with
  | nil => rfl
  | @cons input input' _ _ hinput _ ih =>
      have hstates := unlinkedStates_congr hgateways hlast hinput.1 hinput.2
      have hkept : (self.record input).1.wanGateways = (other.record input').1.wanGateways :=
        hgateways
      have hrest := ih hkept hstates
      simp only [Mealy.outputs_cons, List.map_cons, hrest]
      exact congrArg (· :: _) (Prod.ext hinput.1 hstates)

end SNMPPoller

namespace MockSNMPPoller

def reading (self : MockSNMPPoller) (now : ℤ) : Reading where
  now := now
  status := fun name ↦ if name = self.activeWan then .up else .down
  linkUp := fun name ↦
    if self.wanInterfaces.items ≠ [] then some (name ∉ self.linksDown) else none

theorem states_eq (self : MockSNMPPoller) (now : ℤ) :
    self.states now = (self.reading now).states self.wanGateways self.lastStates := rfl

def Answer.record? : Answer → Option PollRecord
  | .polled now states => some ⟨now, states⟩
  | _ => none

/-- The records of the polls among the calls of a new mock. -/
def pollHistory (wanGateways : Option (Dict String String))
    (wanInterfaces : Option (Dict String ℤ)) (calls : List Call) : List PollRecord :=
  (Mealy.outputs call (init wanGateways wanInterfaces) calls).filterMap Answer.record?

theorem pollRun_call {self : MockSNMPPoller} {history : List PollRecord}
    (h : PollRun self.wanGateways self.lastStates history) (c : Call) :
    PollRun (self.call c).1.wanGateways (self.call c).1.lastStates
      (history ++ (self.call c).2.record?.toList) := by
  obtain ⟨hgateways, hframe⟩ := self.call_frame c
  cases c with
  | poll now => exact h.poll (self.reading now)
  | setActiveWan wanName | setLinkDown wanName | setLinkUp wanName =>
      obtain ⟨hlast, hanswer⟩ := hframe (by simp)
      have hnone : ∀ answer : Answer, (∀ now states, answer ≠ .polled now states) →
          answer.record? = none := by
        intro answer hne
        cases answer <;> simp_all [Answer.record?]
      rw [hgateways, hlast, hnone _ hanswer]
      simpa using h

theorem pollRun (wanGateways : Option (Dict String String))
    (wanInterfaces : Option (Dict String ℤ)) (calls : List Call) :
    PollRun (init wanGateways wanInterfaces).wanGateways
      (Mealy.run call (init wanGateways wanInterfaces) calls).lastStates
      (pollHistory wanGateways wanInterfaces calls) := by
  have hgateways : ∀ calls, (Mealy.run call (init wanGateways wanInterfaces) calls).wanGateways =
      (init wanGateways wanInterfaces).wanGateways :=
    Mealy.run_frame call MockSNMPPoller.wanGateways (fun self c ↦ (self.call_frame c).1) _
  induction calls using List.reverseRecOn with
  | nil => exact .start
  | append_singleton calls c ih =>
      rw [← hgateways calls] at ih
      have hcall := pollRun_call ih c
      rw [← hgateways (calls ++ [c]), pollHistory, Mealy.outputs_append, List.filterMap_append,
        Mealy.run_append]
      cases hrecord : ((Mealy.run call (init wanGateways wanInterfaces) calls).call c).2.record? <;>
        simpa [hrecord, pollHistory] using hcall

end MockSNMPPoller

/-- In every history of either poller each `since` is the time of the first poll of
the current status period, and the links change no status and no `since`. -/
theorem since_marks_period_start :
    (∀ wanGateways wanInterfaces inputs,
      SinceLaw wanGateways (SNMPPoller.pollHistory wanGateways wanInterfaces inputs)) ∧
    (∀ wanGateways wanInterfaces inputs inputs',
      List.Forall₂ (fun x x' ↦ x.now = x'.now ∧ x.nextHop = x'.nextHop) inputs inputs' →
      (SNMPPoller.pollHistory wanGateways wanInterfaces inputs).map
          (fun p ↦ (p.now, unlinkedStates p.states)) =
        (SNMPPoller.pollHistory wanGateways wanInterfaces inputs').map
          fun p ↦ (p.now, unlinkedStates p.states)) ∧
    ∀ wanGateways wanInterfaces calls,
      SinceLaw (MockSNMPPoller.init wanGateways wanInterfaces).wanGateways
        (MockSNMPPoller.pollHistory wanGateways wanInterfaces calls) := by
  refine ⟨?_, ?_, ?_⟩
  · intro wanGateways wanInterfaces inputs
    obtain ⟨lastStates, hrun⟩ := SNMPPoller.pollRun wanGateways wanInterfaces inputs
    exact hrun.sinceLaw
  · intro wanGateways wanInterfaces inputs inputs' h
    exact map_unlinked_congr rfl rfl h
  · intro wanGateways wanInterfaces calls
    exact (MockSNMPPoller.pollRun wanGateways wanInterfaces calls).sinceLaw

end WanRouter
