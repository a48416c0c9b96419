import WanRouter.Local.EngineState
import WanRouter.Local.Failover
import WanRouter.Local.Main

/-!
# The poll interval on a steady route

A round makes one observation for each WAN it visits.  Rounds that select the same
WAN again therefore count as stable for every WAN, but all the other WANs stay
DOWN.  So the short interval is left only where there are no others.
-/

namespace WanRouter

open OrderedDict EdgeDetector SNMPPoller

namespace AlertEngine

theorem mem_keys_processStates (self : AlertEngine) (allStates : Dict String WANState)
    (clock : String → ℤ) (states : List WANState) {name : String} :
    name ∈ (self.processStates allStates clock states).1.wanStates.keys ↔
      name ∈ self.wanStates.keys ∨ name ∈ states.map WANState.interface := by
  induction states generalizing self with
  | nil => simp [processStates]
  | cons state rest ih =>
      rw [processStates, ih, mem_keys_processWanState, List.map_cons, List.mem_cons, or_assoc]

end AlertEngine

theorem exists_ne_iff_two_le_length {α : Type*} {l : List α} (hl : l.Nodup) {a : α}
    (ha : a ∈ l) : (∃ b ∈ l, b ≠ a) ↔ 2 ≤ l.length := by
  have hne : l ≠ [a] ↔ ∃ b ∈ l, b ≠ a :=
    (hl.ne_singleton_iff a).trans (or_iff_right (List.ne_nil_of_mem ha))
  have hone : l = [a] ↔ l.length = 1 := by
    constructor
    · exact congrArg List.length
    · intro hlength
      obtain ⟨b, rfl⟩ := List.length_eq_one_iff.mp hlength
      rw [List.mem_singleton.mp ha]
  have hpos := List.length_pos_of_mem ha
  rw [← hne, ne_eq, hone]
  omega

namespace Monitoring

section OneRound

variable (self : Monitoring) {r : Round} (hr : r.Visits self.poller.wanGateways)

include hr

theorem mem_keys_round {name : String} :
    name ∈ (self.round r).1.engine.wanStates.keys ↔
      name ∈ self.engine.wanStates.keys ∨ name ∈ r.order := by
  change name ∈ (self.engine.processStates (self.poller.states r.input) r.clock
    (r.order.filterMap (self.poller.states r.input).get?)).1.wanStates.keys ↔ _
  rw [self.filterMap_states hr, AlertEngine.mem_keys_processStates, map_interface_wanState]

/-- A round observes the status of its poll once for each WAN it visited. -/
theorem round_alertState {name : String} (hname : name ∈ r.order) :
    (self.round r).1.engine.alertState name =
      (self.engine.alertState name).observe (r.clock name)
        (indicator .up .down (self.selected r) name) := by
  rw [(self.agreesAt_round_of_mem hr hname).alertState_eq,
    AlertEngine.processWanState_alertState]
  exact if_pos rfl

theorem round_consecutiveStable {name : String} (hname : name ∈ r.order) :
    ((self.round r).1.engine.alertState name).consecutiveStable =
      if self.engine.level name = indicator .up .down (self.selected r) name then
        (self.engine.alertState name).consecutiveStable + 1
      else 0 := by
  have hstatus : (indicator .up .down (self.selected r) name : InterfaceStatus) ≠ .unknown := by
    unfold indicator
    split_ifs <;> simp
  rw [self.round_alertState hr hname, AlertState.consecutiveStable_observe _ _ hstatus]
  rfl

/-- Whether the short interval follows a round, in terms of the state before it: only a
WAN that was stable four times and is selected again leaves the alert state. -/
theorem alerting_round_iff {name : String} (hname : name ∈ r.order) :
    ((self.round r).1.engine.alertState name).Alerting ↔
      self.selected r ≠ some name ∨ self.engine.level name = .down ∨
        (self.engine.alertState name).consecutiveStable < 4 := by
  rw [AlertState.Alerting, ← AlertEngine.level, self.round_level hr hname,
    self.round_consecutiveStable hr hname]
  by_cases hselected : self.selected r = some name
  · rw [indicator_of_eq hselected]
    have hne : self.engine.level name ≠ .unknown := AlertState.level_ne_unknown _
    cases hlevel : self.engine.level name with
    | up =>
        simp only [reduceCtorEq, false_or, if_true, ne_eq, hselected, not_true]
        omega
    | down => simp
    | unknown => exact absurd hlevel hne
  · rw [indicator_of_ne hselected]
    exact iff_of_true (Or.inl rfl) (Or.inl hselected)

end OneRound

variable {self : Monitoring} {selection : Option String}

/-- Every round that selects the same WAN again is stable for every WAN. -/
theorem Settled.consecutiveStable_run (h : self.Settled selection) {rs : List Round}
    (hrs : ∀ x ∈ rs, x.Covers self.poller.wanGateways ∧ self.selected x = selection)
    {name : String} (hname : name ∈ self.poller.wanGateways.keys) :
    ((Mealy.run round self rs).engine.alertState name).consecutiveStable =
      (self.engine.alertState name).consecutiveStable + rs.length := by
  induction rs generalizing self with
  | nil => rfl
  | cons x rs ih =>
      obtain ⟨hcovers, hselected⟩ := hrs x (by simp)
      subst hselected
      have hstep := self.round_consecutiveStable hcovers.visits (hcovers.mem_iff.mpr hname)
      rw [if_pos (h name hname)] at hstep
      rw [Mealy.run_cons, ih (settled_round hcovers) (fun y hy ↦ hrs y (by simp [hy])) hname,
        hstep, List.length_cons]
      omega

/-- Every WAN is observed after one complete round, and no other interface ever. -/
theorem mem_keys_run (router : RouterConfig) {rs : List Round}
    (hcovers : ∀ x ∈ rs, x.Covers router.wanGateways) (hne : rs ≠ []) {name : String} :
    name ∈ (Mealy.run round (init router) rs).engine.wanStates.keys ↔
      name ∈ router.wanGateways.keys := by
  induction rs using List.reverseRecOn with
  | nil => exact absurd rfl hne
  | append_singleton rs r ih =>
      have hr := hcovers r (by simp)
      have hvisits : r.Visits (Mealy.run round (init router) rs).poller.wanGateways :=
        (run_wanGateways (init router) rs).symm ▸ hr.visits
      rw [Mealy.run_append, Mealy.run_cons, Mealy.run_nil, mem_keys_round _ hvisits,
        hr.mem_iff]
      constructor
      · rintro (hmem | hmem)
        · rcases eq_or_ne rs [] with rfl | hrs
          · exact absurd hmem List.not_mem_nil
          · exact (ih (fun x hx ↦ hcovers x (by simp [hx])) hrs).mp hmem
        · exact hmem
      · exact Or.inr

/-- After rounds that all selected `active`, this WAN is UP and stable and every
other WAN is DOWN. -/
theorem alerting_iff (router : RouterConfig) {active : String} {rs ss : List Round}
    (hcovers : ∀ x ∈ rs ++ ss, x.Covers router.wanGateways) (hlength : 6 ≤ ss.length)
    (hselected : ∀ m : Monitoring, m.poller.wanGateways = router.wanGateways →
      ∀ x ∈ ss, m.selected x = some active)
    {name : String} (hname : name ∈ router.wanGateways.keys) :
    ((Mealy.run round (init router) (rs ++ ss)).engine.alertState name).Alerting ↔
      name ≠ active := by
  obtain ⟨s, ss, rfl⟩ := List.exists_cons_of_length_pos (Nat.zero_lt_of_lt hlength)
  rw [List.length_cons] at hlength
  -- The first of these rounds may still change a status; the others are stable.
  let m := Mealy.run round (init router) rs
  have hgateways : m.poller.wanGateways = router.wanGateways := run_wanGateways (init router) rs
  have hfirst : s.Covers m.poller.wanGateways := hgateways.symm ▸ hcovers s (by simp)
  have hsettled : (m.round s).1.Settled (some active) := by
    rw [← hselected m hgateways s (by simp)]
    exact settled_round hfirst
  have hrest : ∀ x ∈ ss, x.Covers (m.round s).1.poller.wanGateways ∧
      (m.round s).1.selected x = some active := by
    intro x hx
    refine ⟨hgateways.symm ▸ hcovers x (by simp [hx]), ?_⟩
    exact hselected _ hgateways x (by simp [hx])
  have hmem : name ∈ (m.round s).1.poller.wanGateways.keys := hgateways.symm ▸ hname
  have hstable := hsettled.consecutiveStable_run hrest hmem
  have hframe := run_wanGateways (m.round s).1 ss
  have hlevel : (Mealy.run round (m.round s).1 ss).engine.level name =
      indicator .up .down (some active) name :=
    (hsettled.silent_run hrest).2 name (hframe.symm ▸ hmem)
  rw [Mealy.run_append, Mealy.run_cons, AlertState.Alerting, ← AlertEngine.level, hlevel, hstable]
  by_cases hactive : name = active
  · rw [indicator_of_eq (congrArg some hactive.symm)]
    refine iff_of_false ?_ (not_not.mpr hactive)
    rintro (hdown | hlt)
    · cases hdown
    · omega
  · have hother : some active ≠ some name := fun heq ↦ hactive (Option.some_injective _ heq).symm
    exact iff_of_true (Or.inl (indicator_of_ne hother)) hactive

/-- After six or more polls answered with one configured gateway the short interval
is still used exactly if there is a second WAN. -/
theorem steady_route_alert_interval (config : LocalConfig)
    (hdistinct : config.router.wanGateways.values.Nodup) {active gateway : String}
    (hactive : config.router.wanGateways.get? active = some gateway) {rs ss : List Round}
    (hcovers : ∀ x ∈ rs ++ ss, x.Covers config.router.wanGateways) (hlength : 6 ≤ ss.length)
    (hanswers : ∀ x ∈ ss, answeredHop x.input.nextHop = some gateway)
    {engine : AlertEngine}
    (hengine : engine = (Mealy.run round (init config.router) (rs ++ ss)).engine) :
    (engine.shouldUseAlertInterval = true ↔ 2 ≤ config.router.wanGateways.keys.length) ∧
      ∀ m : LocalMonitor, m.config = config → m.alertEngine = engine →
        m.pollInterval = if 2 ≤ config.router.wanGateways.keys.length
          then config.polling.alertInterval else config.polling.normalInterval := by
  have hselected : ∀ m : Monitoring, m.poller.wanGateways = config.router.wanGateways →
      ∀ x ∈ ss, m.selected x = some active := by
    intro m hm x hx
    rw [← hm] at hdistinct hactive
    exact m.poller.activeWan_of_answered hdistinct hactive (hanswers x hx)
  have hne : rs ++ ss ≠ [] := by
    intro hnil
    rw [(List.append_eq_nil_iff.mp hnil).2] at hlength
    simp at hlength
  have hflag : engine.shouldUseAlertInterval = true ↔
      ∃ name ∈ config.router.wanGateways.keys, name ≠ active := by
    rw [hengine, AlertEngine.shouldUseAlertInterval_iff]
    apply exists_congr
    intro name
    rw [mem_keys_run _ hcovers hne]
    exact and_congr_right fun hname ↦ alerting_iff _ hcovers hlength hselected hname
  rw [exists_ne_iff_two_le_length config.router.wanGateways.keys_nodup
    (Dict.mem_keys_of_get? hactive)] at hflag
  refine ⟨hflag, ?_⟩
  intro m hm hmengine
  rw [LocalMonitor.pollInterval, hm, hmengine]
  exact if_congr hflag rfl rfl

def steadyRounds : List Round := List.replicate 6 (Round.answering "10.0.0.1")

theorem covers_steadyRounds : ∀ x ∈ [] ++ steadyRounds, x.Covers dualWan.wanGateways := by
  intro x hx
  rw [List.nil_append, steadyRounds, List.mem_replicate] at hx
  rw [hx.2]
  exact Round.covers_ofReply _

theorem steady_route_dualWan_interval :
    ∃ engine, engine = (Mealy.run round (init dualWan) ([] ++ steadyRounds)).engine ∧
      engine.shouldUseAlertInterval = true ∧
      ∀ m : LocalMonitor, m.config = { router := dualWan } → m.alertEngine = engine →
        m.pollInterval = 15 := by
  have hactive : dualWan.wanGateways.get? "WAN1" = some "10.0.0.1" := by decide
  have htwo : 2 ≤ dualWan.wanGateways.keys.length := by decide
  obtain ⟨hflag, hinterval⟩ := steady_route_alert_interval { router := dualWan } (by decide)
    hactive covers_steadyRounds (by decide) (by decide) rfl
  exact ⟨_, rfl, hflag.mpr htwo, fun m hconfig hengine ↦
    (hinterval m hconfig hengine).trans (if_pos htwo)⟩

/-- Six polls in a row were answered with the gateway of WAN1. -/
theorem steady_route_keeps_alerting :
    dualWan.wanGateways.values.Nodup ∧
      (∀ x ∈ steadyRounds, x.Covers dualWan.wanGateways ∧
        answeredHop x.input.nextHop = dualWan.wanGateways.get? "WAN1") ∧
      steadyRounds.length = 6 ∧
      (Mealy.run round (init dualWan) steadyRounds).engine.shouldUseAlertInterval = true :=
  ⟨by decide, fun x hx ↦ ⟨covers_steadyRounds x hx, by revert x; decide⟩, rfl, by decide⟩

end Monitoring

end WanRouter
