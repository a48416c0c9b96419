import WanRouter.Local.Rounds

/-!
# The inverted gateway map

The poller looks the next hop up in the inverted configuration.  An address that
several WANs share is kept for the last of them only, so at most one WAN is UP.
-/

namespace WanRouter

open OrderedDict EdgeDetector

/-- The WAN is the last one of the configuration with this gateway. -/
def LastWithGateway (wanGateways : Dict String String) (gateway name : String) : Prop :=
  ∃ before after, wanGateways.items = before ++ (name, gateway) :: after ∧
    ∀ p ∈ after, p.2 ≠ gateway

theorem get?_invertGateways_iff (wanGateways : Dict String String) (gateway name : String) :
    (invertGateways wanGateways).get? gateway = some name ↔
      LastWithGateway wanGateways gateway name := by
  rw [invertGateways, Dict.get?_ofList_eq_some_iff]
  constructor
  · rintro ⟨before, after, hsplit, hafter⟩
    obtain ⟨before', rest, hitems, -, hrest⟩ := List.map_eq_append_iff.mp hsplit
    obtain ⟨⟨n, g⟩, after', rfl, hswap, rfl⟩ := List.map_eq_cons_iff.mp hrest
    cases hswap
    exact ⟨before', after', hitems, fun p hp ↦ hafter _ (List.mem_map_of_mem hp)⟩
  · rintro ⟨before, after, hitems, hafter⟩
    refine ⟨_, _, by rw [hitems, List.map_append, List.map_cons], ?_⟩
    intro p hp
    obtain ⟨q, hq, rfl⟩ := List.mem_map.mp hp
    exact hafter q hq

/-- With distinct addresses every WAN is the last one with its gateway. -/
theorem lastWithGateway_iff {wanGateways : Dict String String}
    (hdistinct : wanGateways.values.Nodup) {name gateway : String}
    (hname : wanGateways.get? name = some gateway) (h : String) :
    LastWithGateway wanGateways h name ↔ gateway = h := by
  constructor
  · rintro ⟨before, after, hitems, -⟩
    have hmem : (name, h) ∈ wanGateways.items := by simp [hitems]
    exact Option.some.inj (hname.symm.trans (Dict.get?_eq_some_iff.mpr hmem))
  · rintro rfl
    obtain ⟨before, after, hitems⟩ := List.append_of_mem (Dict.get?_eq_some_iff.mp hname)
    refine ⟨before, after, hitems, ?_⟩
    intro p hp heq
    rw [Dict.values, hitems, List.map_append, List.map_cons, List.nodup_append'] at hdistinct
    have hfresh := (List.nodup_cons.mp hdistinct.2.1).1
    exact hfresh (List.mem_map.mpr ⟨p, hp, heq⟩)

namespace SNMPPoller

theorem activeWan_iff (self : SNMPPoller) {reply : GetCmdReply} {h : String}
    (hanswer : answeredHop reply = some h) (name : String) :
    self.activeWan (getNextHop reply) = some name ↔
      LastWithGateway self.wanGateways h name := by
  obtain ⟨hhop, hne⟩ := Option.filter_eq_some_iff.mp hanswer
  rw [hhop, activeWan, ← get?_invertGateways_iff]
  simp only [if_neg (of_decide_eq_true hne), self.gatewayToWan_eq]

/-- A poll answered with a non-empty next hop reports a WAN as UP exactly if it is the
last one configured with that gateway; with distinct gateways, if it is its own. -/
theorem reports_last_gateway (self : SNMPPoller) (input : PollInput) {h name gateway : String}
    (hanswer : answeredHop input.nextHop = some h)
    (hname : self.wanGateways.get? name = some gateway) :
    ∃ state, (self.poll input).2.get? name = some state ∧
      (state.status = .up ↔ LastWithGateway self.wanGateways h name) ∧
      (state.status = .up ∨ state.status = .down) ∧
      (self.wanGateways.values.Nodup → (state.status = .up ↔ gateway = h)) := by
  have hstatus := self.wanState_status input name
  have hup : (self.wanState input name).status = .up ↔
      LastWithGateway self.wanGateways h name := by
    rw [hstatus, indicator_eq_on_iff (by decide), self.activeWan_iff hanswer]
  refine ⟨_, self.get?_states input (Dict.mem_keys_of_get? hname), hup, ?_, ?_⟩
  · rw [hstatus, indicator]
    split_ifs <;> simp
  · intro hdistinct
    rw [hup, lastWithGateway_iff hdistinct hname]

/-- Two WANs behind one gateway. -/
def sharedGateway : SNMPPoller where
  wanGateways := ⟨[("WAN1", "10.0.0.1"), ("WAN2", "10.0.0.1")], by decide⟩

theorem reports_last_gateway_shared :
    ∃ state, (sharedGateway.poll (Round.answering "10.0.0.1").input).2.get? "WAN2" = some state ∧
      (state.status = .up ↔ LastWithGateway sharedGateway.wanGateways "10.0.0.1" "WAN2") ∧
      (state.status = .up ∨ state.status = .down) ∧
      (sharedGateway.wanGateways.values.Nodup → (state.status = .up ↔ "10.0.0.1" = "10.0.0.1")) :=
  sharedGateway.reports_last_gateway _ (by decide) (by decide)

/-- The first of the two is DOWN although its gateway is the next hop. -/
theorem sharedGateway_first_down :
    answeredHop (Round.answering "10.0.0.1").input.nextHop = some "10.0.0.1" ∧
      sharedGateway.wanGateways.get? "WAN1" = some "10.0.0.1" ∧
      ((sharedGateway.poll (Round.answering "10.0.0.1").input).2.get? "WAN1").map
        WANState.status = some .down :=
  ⟨by decide, by decide, by decide⟩

end SNMPPoller

end WanRouter
