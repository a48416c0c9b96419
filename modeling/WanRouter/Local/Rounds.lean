import WanRouter.Local.EngineRuns
import WanRouter.Local.SnmpPoller
import WanRouter.Shared.Config

/-!
# Rounds: one poll and the processing of its states

A round polls the router and processes every state of the poll, with the poll
itself as `all_states`.  The order of the processing is a parameter.  After a
round the level of each configured WAN is UP exactly for the WAN that the next
hop selected, so a round alerts the WANs where two such indicators differ.
-/

namespace WanRouter

open OrderedDict EdgeDetector SNMPPoller

namespace AlertEngine

def processStates (self : AlertEngine) (allStates : Dict String WANState)
    (clock : String → ℤ) : List WANState → AlertEngine × List AlertEvent
  | [] => (self, [])
  | state :: rest =>
      let step := self.processWanState (clock state.interface) state (some allStates)
      let tail := step.1.processStates allStates clock rest
      (tail.1, step.2 ++ tail.2)

variable (allStates : Dict String WANState) (clock : String → ℤ)

/-- With distinct interfaces every call answers as if it were the first. -/
theorem processStates_alerts (self : AlertEngine) {states : List WANState}
    (h : (states.map WANState.interface).Nodup) :
    (self.processStates allStates clock states).2 =
      states.flatMap fun s ↦ (self.processWanState (clock s.interface) s (some allStates)).2 := by
  induction states generalizing self with
  | nil => rfl
  | cons state rest ih =>
      rw [List.map_cons, List.nodup_cons] at h
      have htail : ∀ s ∈ rest,
          (((self.processWanState (clock state.interface) state
            (some allStates)).1.processWanState (clock s.interface) s (some allStates)).2 =
          (self.processWanState (clock s.interface) s (some allStates)).2) := by
        intro s hs
        have hne : s.interface ≠ state.interface :=
          fun heq ↦ h.1 (List.mem_map.mpr ⟨s, hs, heq⟩)
        exact (agreesAt_processWanState_of_ne self _ _ hne).processWanState_alerts _ _
      rw [processStates, List.flatMap_cons, ih _ h.2, ← List.flatMap_congr htail]

theorem processStates_concat (self : AlertEngine) (states : List WANState) (state : WANState) :
    self.processStates allStates clock (states ++ [state]) =
      let before := self.processStates allStates clock states
      let last := before.1.processWanState (clock state.interface) state (some allStates)
      (last.1, before.2 ++ last.2) := by
  induction states generalizing self with
  | nil => simp [processStates]
  | cons s states ih =>
      rw [List.cons_append, processStates, ih]
      simp [processStates]

theorem processStates_congr (self : AlertEngine) {clock' : String → ℤ} {states : List WANState}
    (h : ∀ s ∈ states, clock s.interface = clock' s.interface) :
    self.processStates allStates clock states = self.processStates allStates clock' states := by
  induction states generalizing self with
  | nil => rfl
  | cons state rest ih =>
      have hrest := fun e : AlertEngine ↦ ih e fun s hs ↦ h s (by simp [hs])
      rw [processStates, processStates, h state (by simp), hrest]

theorem routerLines_processStates (self : AlertEngine) (states : List WANState) (now : ℤ) :
    (self.processStates allStates clock states).1.routerLines now = self.routerLines now := by
  induction states generalizing self with
  | nil => rfl
  | cons state rest ih => exact ih _

/-- Processing leaves the data about every other interface as it was. -/
theorem agreesAt_processStates (self : AlertEngine) {states : List WANState} {interface : String}
    (h : interface ∉ states.map WANState.interface) :
    AgreesAt interface (self.processStates allStates clock states).1 self := by
  induction states generalizing self with
  | nil => exact ⟨rfl, rfl, rfl, rfl⟩
  | cons state rest ih =>
      rw [List.map_cons, List.mem_cons, not_or] at h
      exact (ih _ h.2).trans (agreesAt_processWanState_of_ne self _ _ h.1)

/-- Processing does to every interface what the call for its state alone does. -/
theorem agreesAt_processStates_of_mem (self : AlertEngine) {states : List WANState}
    (h : (states.map WANState.interface).Nodup) {s : WANState} (hs : s ∈ states) :
    AgreesAt s.interface (self.processStates allStates clock states).1
      (self.processWanState (clock s.interface) s (some allStates)).1 := by
  induction states generalizing self with
  | nil => simp at hs
  | cons state rest ih =>
      rw [List.map_cons, List.nodup_cons] at h
      rcases List.mem_cons.mp hs with rfl | hs
      · exact agreesAt_processStates _ _ _ h.1
      · have hne : s.interface ≠ state.interface :=
          fun heq ↦ h.1 (List.mem_map.mpr ⟨s, hs, heq⟩)
        have hfirst := agreesAt_processWanState_of_ne self (clock state.interface)
          (some allStates) hne
        exact (ih _ h.2 hs).trans (hfirst.processWanState _ _)

end AlertEngine

theorem flatMap_ite_singleton {α β : Type*} (p : α → Prop) [DecidablePred p] (f : α → β)
    (l : List α) :
    (l.flatMap fun a ↦ if p a then [] else [f a]) = (l.filter fun a ↦ ¬p a).map f := by
  induction l with
  | nil => rfl
  | cons a l ih => by_cases ha : p a <;> simpa [ha] using ih

structure Round where
  input : PollInput
  order : List String
  clock : String → ℤ

/-- The processing visits configured WANs only, and none of them twice. -/
structure Round.Visits (r : Round) (wanGateways : Dict String String) : Prop where
  nodup : r.order.Nodup
  configured : ∀ name ∈ r.order, name ∈ wanGateways.keys

/-- The processing visits every configured WAN once. -/
def Round.Covers (r : Round) (wanGateways : Dict String String) : Prop :=
  r.order.Perm wanGateways.keys

theorem Round.Covers.visits {r : Round} {wanGateways : Dict String String}
    (h : r.Covers wanGateways) : r.Visits wanGateways where
  nodup := h.nodup_iff.mpr wanGateways.keys_nodup
  configured := fun _ ↦ h.mem_iff.mp

structure Monitoring where
  poller : SNMPPoller
  engine : AlertEngine

namespace Monitoring

def init (router : RouterConfig) : Monitoring where
  poller := { wanGateways := router.wanGateways, wanInterfaces := router.wanInterfaces }
  engine := AlertEngine.init router.host router.name

def round (self : Monitoring) (r : Round) : Monitoring × List AlertEvent :=
  let polled := self.poller.poll r.input
  let processed :=
    self.engine.processStates polled.2 r.clock (r.order.filterMap polled.2.get?)
  ({ poller := polled.1, engine := processed.1 }, processed.2)

/-- The WAN that the next hop of the round selects. -/
def selected (self : Monitoring) (r : Round) : Option String :=
  self.poller.activeWan (getNextHop r.input.nextHop)

theorem selected_congr {m n : Monitoring} (h : m.poller.wanGateways = n.poller.wanGateways)
    (r : Round) : m.selected r = n.selected r := activeWan_congr h _

theorem run_wanGateways (self : Monitoring) (rs : List Round) :
    (Mealy.run round self rs).poller.wanGateways = self.poller.wanGateways :=
  Mealy.run_frame round (fun m ↦ m.poller.wanGateways) (fun _ _ ↦ rfl) self rs

/-- The first lines of every message about a router. -/
def headLines (router : RouterConfig) (now : ℤ) : List String :=
  ["Router: " ++ router.name ++ " (" ++ router.host ++ ")", "Time: " ++ strftimeUtc now]

theorem routerLines_run (router : RouterConfig) (rs : List Round) (now : ℤ) :
    (Mealy.run round (init router) rs).engine.routerLines now = headLines router now :=
  Mealy.run_frame round (fun m ↦ m.engine.routerLines now)
    (fun _ _ ↦ AlertEngine.routerLines_processStates _ _ _ _ _) (init router) rs

section OneRound

variable (self : Monitoring) {r : Round} (hr : r.Visits self.poller.wanGateways)

def alertFor (r : Round) (name : String) : AlertEvent :=
  self.engine.changeAlert (r.clock name) (self.poller.wanState r.input name)
    (some (self.poller.states r.input))

include hr

theorem filterMap_states :
    r.order.filterMap (self.poller.states r.input).get? =
      r.order.map (self.poller.wanState r.input) := by
  have hget : ∀ name ∈ r.order, (self.poller.states r.input).get? name =
      some (self.poller.wanState r.input name) :=
    fun name hname ↦ self.poller.get?_states r.input (hr.configured name hname)
  rw [List.filterMap_congr hget, List.filterMap_eq_map']

theorem nodup_interfaces :
    ((r.order.map (self.poller.wanState r.input)).map WANState.interface).Nodup := by
  rw [map_interface_wanState]
  exact hr.nodup

/-- A round alerts exactly the WANs whose new status is not their level. -/
theorem round_alerts :
    (self.round r).2 = (r.order.filter fun name ↦
        ¬indicator .up .down (self.selected r) name = self.engine.level name).map
      (self.alertFor r) := by
  have hcall : ∀ name, (self.engine.processWanState (r.clock name)
      (self.poller.wanState r.input name) (some (self.poller.states r.input))).2 =
      if indicator .up .down (self.selected r) name = self.engine.level name then []
      else [self.alertFor r name] := fun name ↦
    self.engine.processWanState_alerts _ _ (self.poller.wanState_status_ne_unknown _ name)
  change (self.engine.processStates (self.poller.states r.input) r.clock
    (r.order.filterMap (self.poller.states r.input).get?)).2 = _
  rw [self.filterMap_states hr,
    AlertEngine.processStates_alerts _ _ _ (self.nodup_interfaces hr), List.flatMap_map,
    ← flatMap_ite_singleton]
  exact List.flatMap_congr fun name _ ↦ hcall name

/-- A round does to each WAN it visited what one call of the engine does. -/
theorem agreesAt_round_of_mem {name : String} (hname : name ∈ r.order) :
    AlertEngine.AgreesAt name (self.round r).1.engine
      (self.engine.processWanState (r.clock name) (self.poller.wanState r.input name)
        (some (self.poller.states r.input))).1 := by
  have hmem : self.poller.wanState r.input name ∈
      r.order.map (self.poller.wanState r.input) := List.mem_map_of_mem hname
  change AlertEngine.AgreesAt (self.poller.wanState r.input name).interface
    (self.engine.processStates (self.poller.states r.input) r.clock
      (r.order.filterMap (self.poller.states r.input).get?)).1 _
  rw [self.filterMap_states hr]
  exact AlertEngine.agreesAt_processStates_of_mem _ _ _ (self.nodup_interfaces hr) hmem

/-- After a round the level of a WAN it visited is its status in the poll. -/
theorem round_level {name : String} (hname : name ∈ r.order) :
    (self.round r).1.engine.level name = indicator .up .down (self.selected r) name := by
  have hstatus := self.poller.wanState_status_ne_unknown r.input name
  rw [(self.agreesAt_round_of_mem hr hname).level_eq,
    AlertEngine.processWanState_level _ _ _ hstatus]
  exact Function.update_self name _ _

/-- A round leaves the data about every interface it did not visit as it was. -/
theorem agreesAt_round {name : String} (hname : name ∉ r.order) :
    AlertEngine.AgreesAt name (self.round r).1.engine self.engine := by
  apply AlertEngine.agreesAt_processStates
  change name ∉ (r.order.filterMap (self.poller.states r.input).get?).map WANState.interface
  rwa [self.filterMap_states hr, map_interface_wanState]

end OneRound

end Monitoring

/-! ## A router with two WANs -/

def dualWan : RouterConfig where
  host := "192.168.0.1"
  wanGateways := ⟨[("WAN1", "10.0.0.1"), ("WAN2", "10.0.0.2")], by decide⟩

/-- A round of `dualWan` at clock reading 0. -/
def Round.ofReply (nextHop : GetCmdReply) : Round where
  input := { now := 0, nextHop := nextHop }
  order := ["WAN1", "WAN2"]
  clock := fun _ ↦ 0

def Round.answering (hop : String) : Round :=
  Round.ofReply (.answered none 0 [{ prettyPrint := hop }])

def Round.lost : Round :=
  Round.ofReply (.answered (some "No SNMP response received before timeout") 0 [])

theorem Round.covers_ofReply (nextHop : GetCmdReply) :
    (Round.ofReply nextHop).Covers dualWan.wanGateways := List.Perm.refl _

end WanRouter
