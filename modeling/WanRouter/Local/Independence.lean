import WanRouter.Lib.KeyedCells
import WanRouter.Local.EngineRuns

/-!
# Independence of the interfaces

The engine is a family of cells, one for each interface, and `process_wan_state`
reads and writes only the cell of the interface it is given.
-/

namespace WanRouter

open OrderedDict Mealy

/-- One call of `process_wan_state` with its clock reading. -/
structure WanCall where
  now : ℤ
  state : WANState
  allStates : Option (Dict String WANState)
  deriving DecidableEq

def WanCall.interface (c : WanCall) : String := c.state.interface

namespace AlertEngine

def processCall (self : AlertEngine) (c : WanCall) : AlertEngine × List AlertEvent :=
  self.processWanState c.now c.state c.allStates

/-- Equal engines: Python compares dictionaries without regard to the order of their keys. -/
def SameState (e f : AlertEngine) : Prop := ∀ interface, AgreesAt interface e f

theorem keyedCells_processCall : KeyedCells processCall WanCall.interface AgreesAt where
  refl _ _ := ⟨rfl, rfl, rfl, rfl⟩
  symm h := ⟨h.routerIp.symm, h.routerName.symm, h.wanState.symm, h.previous.symm⟩
  trans h h' := h.trans h'
  output {_ _ c} h := h.processWanState_alerts c.now c.allStates
  write {_ _ c} h := h.processWanState c.now c.allStates
  frame {e c _} h := agreesAt_processWanState_of_ne e c.now c.allStates h

/-- The alerts of an interface and what the engine holds about it are those of its own
calls alone, and the calls of a poll can be made in any order. -/
theorem wan_calls_independent (routerIp routerName : String) :
    (∀ (calls : List WanCall) (interface : String),
      (outputsAt processCall WanCall.interface interface (init routerIp routerName)
          calls).flatten =
        (outputs processCall (init routerIp routerName)
          (calls.filter (·.interface = interface))).flatten ∧
      (run processCall (init routerIp routerName) calls).wanStates.get? interface =
        (run processCall (init routerIp routerName)
          (calls.filter (·.interface = interface))).wanStates.get? interface ∧
      (run processCall (init routerIp routerName) calls).previousWan.get? interface =
        (run processCall (init routerIp routerName)
          (calls.filter (·.interface = interface))).previousWan.get? interface) ∧
    ∀ (engine : AlertEngine) (poll reordered : List WanCall), poll.Perm reordered →
      (poll.map WanCall.interface).Nodup →
      SameState (run processCall engine poll) (run processCall engine reordered) ∧
        (outputs processCall engine poll).flatten.Perm
          (outputs processCall engine reordered).flatten := by
  refine ⟨?_, ?_⟩
  · intro calls interface
    obtain ⟨hcell, hout⟩ := keyedCells_processCall.run_filter
      (keyedCells_processCall.refl interface (init routerIp routerName)) calls
    exact ⟨congrArg List.flatten hout, hcell.wanState, hcell.previous⟩
  · intro engine poll reordered hperm hdistinct
    obtain ⟨hstate, hout⟩ := keyedCells_processCall.run_perm engine hperm hdistinct
    exact ⟨hstate, hout.flatten⟩

theorem wan_calls_independent_down_up :
    SameState
      (run processCall (init "192.168.0.1" "router")
        [⟨0, { interface := "WAN1", status := .down, since := 0 }, none⟩,
          ⟨1, { interface := "WAN2", status := .up, since := 0 }, none⟩])
      (run processCall (init "192.168.0.1" "router")
        [⟨1, { interface := "WAN2", status := .up, since := 0 }, none⟩,
          ⟨0, { interface := "WAN1", status := .down, since := 0 }, none⟩]) :=
  ((wan_calls_independent "192.168.0.1" "router").2 _ _ _ (List.Perm.swap _ _ _)
    (by decide)).1

end AlertEngine

end WanRouter
