import WanRouter.Lib.Mealy
import WanRouter.Local.MockSnmpPoller

/-!
# The mock poller in the place of the real one

The mock and a real poller run side by side; whenever the mock is polled, the
real poller is polled too, by a router whose default route is the active WAN of
the mock and whose links are up unless they were set down.  The mock starts with
WAN1 active, and it reports a link for every WAN as soon as one is configured.
-/

namespace WanRouter

open OrderedDict SNMPPoller

namespace MockSNMPPoller

/-- What the router answers when it behaves like the mock. -/
def routerInput (self : MockSNMPPoller) (now : ℤ) : PollInput where
  now := now
  nextHop := .answered none 0
    ((self.wanGateways.get? self.activeWan).toList.map fun gateway ↦ { prettyPrint := gateway })
  links name := .answered none 0
    [if name ∈ self.linksDown then { prettyPrint := "2", toInt? := some 2 }
      else { prettyPrint := "1", toInt? := some 1 }]

/-- The two pollers after a call of the mock. -/
def sideBySide (p : MockSNMPPoller × SNMPPoller) (c : Call) :
    (MockSNMPPoller × SNMPPoller) × Answer :=
  match c with
  | .poll now => (((p.1.poll now).1, (p.2.poll (p.1.routerInput now)).1),
      .polled now (p.1.poll now).2)
  | c => (((p.1.call c).1, p.2), (p.1.call c).2)

/-- A new real poller with the maps of the mock. -/
def realPoller (self : MockSNMPPoller) : SNMPPoller :=
  { wanGateways := self.wanGateways, wanInterfaces := self.wanInterfaces }

def started (gateways : Dict String String) (interfaces : Dict String ℤ) :
    MockSNMPPoller × SNMPPoller :=
  let mock := init (some gateways) (some interfaces)
  (mock, mock.realPoller)

/-- After any calls the active WAN is known, and a poll of the mock reports one WAN as UP
and the states that the real poller would report. -/
def FaithfulStandIn (gateways : Dict String String) (interfaces : Dict String ℤ) : Prop :=
  ∀ calls : List Call,
    let p := Mealy.run sideBySide (started gateways interfaces) calls
    p.1.activeWan ∈ gateways.keys ∧
      ∀ now, (∃! name, reportsUp (p.1.poll now).2 name) ∧
        (p.1.poll now).2 = (p.2.poll (p.1.routerInput now)).2

/-! ## The answers of the router -/

theorem get?_foldl_set_keys (f : String → Bool) (names : List String)
    (results : Dict String Bool) (name : String) :
    (names.foldl (fun results n ↦ results.set n (f n)) results).get? name =
      if name ∈ names then some (f name) else results.get? name := by
  induction names generalizing results with
  | nil => simp
  | cons n names ih =>
      rw [List.foldl_cons, ih, Dict.get?_set]
      by_cases hname : name ∈ names
      · simp [hname]
      · by_cases hn : name = n
        · subst hn
          simp
        · simp [hname, hn]

/-- The real poller reads the link of every configured interface, and of no other WAN. -/
theorem get?_getIfOperStatus_routerInput (self : MockSNMPPoller) (real : SNMPPoller) (now : ℤ)
    (name : String) :
    (real.getIfOperStatus (self.routerInput now).links).get? name =
      if name ∈ real.wanInterfaces.keys then some (decide (name ∉ self.linksDown)) else none := by
  have hstep : real.getIfOperStatus (self.routerInput now).links =
      real.wanInterfaces.keys.foldl
        (fun results n ↦ results.set n (decide (n ∉ self.linksDown))) ∅ := by
    rw [getIfOperStatus]
    congr 1
    funext results n
    by_cases hn : n ∈ self.linksDown <;> simp [routerInput, recordLink, hn]
  rw [hstep, get?_foldl_set_keys, Dict.get?_empty]

theorem activeWan_routerInput (self : MockSNMPPoller) (real : SNMPPoller)
    (hgateways : real.wanGateways = self.wanGateways)
    (hdistinct : self.wanGateways.values.Nodup) (hactive : self.activeWan ∈ self.wanGateways.keys)
    (haddress : ∀ gateway ∈ self.wanGateways.values, gateway ≠ "") (now : ℤ) :
    real.activeWan (getNextHop (self.routerInput now).nextHop) = some self.activeWan := by
  obtain ⟨gateway, hgateway⟩ := Dict.exists_get?_of_mem_keys hactive
  have hhop : getNextHop (self.routerInput now).nextHop = some gateway := by
    simp [routerInput, getNextHop, hgateway]
  rw [hhop]
  apply real.activeWan_of_gateway
  · rw [hgateways]
    exact hdistinct
  · rw [hgateways]
    exact hgateway
  · exact haddress gateway (Dict.mem_values_iff.mpr ⟨_, hgateway⟩)

/-! ## The simulation -/

/-- The maps for which the mock is faithful. -/
structure StandsIn (gateways : Dict String String) (interfaces : Dict String ℤ) : Prop where
  default_mem : "WAN1" ∈ gateways.keys
  address_ne : ∀ gateway ∈ gateways.values, gateway ≠ ""
  all_or_none : interfaces.items = [] ∨ ∀ name ∈ gateways.keys, name ∈ interfaces.keys

/-- The two pollers remember the same, and the active WAN of the mock is known. -/
structure Matched (gateways : Dict String String) (interfaces : Dict String ℤ)
    (p : MockSNMPPoller × SNMPPoller) : Prop where
  mockGateways : p.1.wanGateways = gateways
  mockInterfaces : p.1.wanInterfaces = interfaces
  realGateways : p.2.wanGateways = gateways
  realInterfaces : p.2.wanInterfaces = interfaces
  lastStates : p.1.lastStates = p.2.lastStates
  active : p.1.activeWan ∈ gateways.keys

variable {gateways : Dict String String} {interfaces : Dict String ℤ}
  {p : MockSNMPPoller × SNMPPoller}

theorem wanGateways_init (hne : gateways.items ≠ []) :
    (init (some gateways) (some interfaces)).wanGateways = gateways := if_neg hne

theorem matched_started (hne : gateways.items ≠ []) (h : "WAN1" ∈ gateways.keys) :
    Matched gateways interfaces (started gateways interfaces) := by
  have hgateways : (init (some gateways) (some interfaces)).wanGateways = gateways :=
    wanGateways_init hne
  exact ⟨hgateways, rfl, hgateways, rfl, rfl, h⟩

theorem Matched.wanState_eq (h : Matched gateways interfaces p)
    (hdistinct : gateways.values.Nodup) (hstands : StandsIn gateways interfaces) (now : ℤ)
    {name : String} (hname : name ∈ gateways.keys) :
    p.1.wanState now name = p.2.wanState (p.1.routerInput now) name := by
  have hactive := activeWan_routerInput p.1 p.2 (h.realGateways.trans h.mockGateways.symm)
    (h.mockGateways ▸ hdistinct) (h.mockGateways ▸ h.active)
    (h.mockGateways ▸ hstands.address_ne) now
  have hlink := get?_getIfOperStatus_routerInput p.1 p.2 now name
  rw [h.realInterfaces] at hlink
  simp only [MockSNMPPoller.wanState, SNMPPoller.wanState, hactive, hlink, Option.some.injEq,
    h.lastStates, h.mockInterfaces, WANState.mk.injEq, true_and]
  refine ⟨?_, ?_, ?_⟩
  · simp only [eq_comm]
  · simp only [eq_comm, routerInput]
  · rcases hstands.all_or_none with hnone | hall
    · simp [hnone, Dict.keys]
    · have hmem := hall name hname
      have hsome : interfaces.items ≠ [] := by
        rintro hempty
        simp [Dict.keys, hempty] at hmem
      rw [if_pos hsome, if_pos hmem]

theorem Matched.poll_eq (h : Matched gateways interfaces p) (hdistinct : gateways.values.Nodup)
    (hstands : StandsIn gateways interfaces) (now : ℤ) :
    (p.1.poll now).2 = (p.2.poll (p.1.routerInput now)).2 := by
  apply Dict.ext
  simp only [MockSNMPPoller.poll, SNMPPoller.poll, MockSNMPPoller.states, SNMPPoller.states,
    Dict.mapItems, h.mockGateways, h.realGateways]
  apply List.map_congr_left
  intro q hq
  rw [h.wanState_eq hdistinct hstands now (List.mem_map_of_mem hq)]

theorem Matched.call (h : Matched gateways interfaces p) (hdistinct : gateways.values.Nodup)
    (hstands : StandsIn gateways interfaces) (c : Call) :
    Matched gateways interfaces (sideBySide p c).1 := by
  cases c with
  | setActiveWan wanName =>
      by_cases hknown : wanName ∈ p.1.wanGateways.keys
      · simp only [sideBySide, MockSNMPPoller.call, setActiveWan, attempt, hknown,
          not_true_eq_false, if_false]
        exact ⟨h.mockGateways, h.mockInterfaces, h.realGateways, h.realInterfaces, h.lastStates,
          h.mockGateways ▸ hknown⟩
      · simp only [sideBySide, MockSNMPPoller.call, setActiveWan, attempt, hknown,
          not_false_eq_true, if_true]
        exact h
  | setLinkDown wanName =>
      by_cases hknown : wanName ∈ p.1.wanGateways.keys
      · simp only [sideBySide, MockSNMPPoller.call, setLinkDown, attempt, hknown,
          not_true_eq_false, if_false]
        exact ⟨h.mockGateways, h.mockInterfaces, h.realGateways, h.realInterfaces, h.lastStates,
          h.active⟩
      · simp only [sideBySide, MockSNMPPoller.call, setLinkDown, attempt, hknown,
          not_false_eq_true, if_true]
        exact h
  | setLinkUp wanName =>
      exact ⟨h.mockGateways, h.mockInterfaces, h.realGateways, h.realInterfaces, h.lastStates,
        h.active⟩
  | poll now =>
      exact ⟨h.mockGateways, h.mockInterfaces, h.realGateways, h.realInterfaces,
        h.poll_eq hdistinct hstands now, h.active⟩

theorem reportsUp_poll_iff (self : MockSNMPPoller) (now : ℤ) (name : String) :
    reportsUp (self.poll now).2 name ↔
      name ∈ self.wanGateways.keys ∧ name = self.activeWan := by
  have hget : (self.poll now).2.get? name =
      (self.wanGateways.get? name).map fun _ ↦ self.wanState now name := by
    rw [MockSNMPPoller.poll, MockSNMPPoller.states, Dict.get?_mapItems]
  rw [reportsUp, hget]
  by_cases hname : name ∈ self.wanGateways.keys
  · obtain ⟨gateway, hgateway⟩ := Dict.exists_get?_of_mem_keys hname
    simp only [hgateway, Option.map_some, MockSNMPPoller.wanState, hname, true_and,
      Option.some.injEq]
    by_cases hactive : name = self.activeWan <;> simp [hactive]
  · simp [Dict.get?_eq_none_iff.mpr hname, hname]

/-! ## When the mock is faithful -/

theorem StandsIn.faithful (hstands : StandsIn gateways interfaces) (hne : gateways.items ≠ [])
    (hdistinct : gateways.values.Nodup) : FaithfulStandIn gateways interfaces := by
  intro calls
  have hstep : ∀ p c, True → Matched gateways interfaces p →
      Matched gateways interfaces (sideBySide p c).1 :=
    fun p c _ h ↦ h.call hdistinct hstands c
  have hmatched : Matched gateways interfaces
      (Mealy.run sideBySide (started gateways interfaces) calls) :=
    Mealy.run_invariant sideBySide (Matched gateways interfaces) hstep
      (matched_started hne hstands.default_mem) fun _ _ ↦ trivial
  refine ⟨hmatched.active, ?_⟩
  intro now
  have hactive : (Mealy.run sideBySide (started gateways interfaces) calls).1.activeWan ∈
      (Mealy.run sideBySide (started gateways interfaces) calls).1.wanGateways.keys := by
    rw [hmatched.mockGateways]
    exact hmatched.active
  refine ⟨⟨_, (reportsUp_poll_iff _ now _).mpr ⟨hactive, rfl⟩, ?_⟩,
    hmatched.poll_eq hdistinct hstands now⟩
  intro name hname
  exact ((reportsUp_poll_iff _ now name).mp hname).2

/-- With an empty address the real poller sees no next hop. -/
theorem activeWan_of_empty_address (self : MockSNMPPoller) (real : SNMPPoller)
    (h : self.wanGateways.get? self.activeWan = some "") (now : ℤ) :
    real.activeWan (getNextHop (self.routerInput now).nextHop) = none := by
  simp [routerInput, getNextHop, h, SNMPPoller.activeWan]

theorem FaithfulStandIn.address_ne (h : FaithfulStandIn gateways interfaces)
    (hne : gateways.items ≠ []) : ∀ gateway ∈ gateways.values, gateway ≠ "" := by
  rintro gateway hgateway rfl
  obtain ⟨name, hname⟩ := Dict.mem_values_iff.mp hgateway
  have hmem : name ∈ (started gateways interfaces).1.wanGateways.keys :=
    (wanGateways_init hne).symm ▸ Dict.mem_keys_of_get? hname
  have hactive : (Mealy.run sideBySide (started gateways interfaces)
      [.setActiveWan name]).1.activeWan = name := by
    simp only [Mealy.run_cons, Mealy.run_nil, sideBySide, MockSNMPPoller.call, setActiveWan,
      attempt, hmem, not_true_eq_false, if_false]
  have hgateways : (Mealy.run sideBySide (started gateways interfaces)
      [.setActiveWan name]).1.wanGateways = gateways := by
    rw [Mealy.run_cons, Mealy.run_nil]
    exact ((call_frame _ (.setActiveWan name)).1).trans (wanGateways_init hne)
  obtain ⟨⟨up, hup, -⟩, heq⟩ := (h [.setActiveWan name]).2 0
  obtain ⟨-, rfl⟩ := (reportsUp_poll_iff _ 0 up).mp hup
  rw [heq, SNMPPoller.poll, reportsUp_states_iff, activeWan_of_empty_address] at hup
  · cases hup
  · rw [hgateways, hactive, hname]

/-- A configured link anywhere makes the mock report a link everywhere. -/
theorem FaithfulStandIn.all_or_none (h : FaithfulStandIn gateways interfaces)
    (hne : gateways.items ≠ []) :
    interfaces.items = [] ∨ ∀ name ∈ gateways.keys, name ∈ interfaces.keys := by
  by_cases hsome : interfaces.items = []
  · exact Or.inl hsome
  · refine Or.inr ?_
    intro name hname
    by_contra hno
    have heq := ((h []).2 0).2
    obtain ⟨gateway, hgateway⟩ := Dict.exists_get?_of_mem_keys hname
    have hgateways : (init (some gateways) (some interfaces)).wanGateways = gateways :=
      wanGateways_init hne
    have hmock : ((started gateways interfaces).1.poll 0).2.get? name =
        some ((started gateways interfaces).1.wanState 0 name) := by
      rw [MockSNMPPoller.poll, MockSNMPPoller.states, Dict.get?_mapItems,
        show (started gateways interfaces).1.wanGateways = gateways from hgateways,
        hgateway, Option.map_some]
    have hreal : (started gateways interfaces).2.wanGateways = gateways := hgateways
    have hconfigured : name ∈ (started gateways interfaces).2.wanGateways.keys := by
      rw [hreal]
      exact hname
    have hstate := (started gateways interfaces).2.get?_states
      ((started gateways interfaces).1.routerInput 0) hconfigured
    have hlink := get?_getIfOperStatus_routerInput (started gateways interfaces).1
      (started gateways interfaces).2 0 name
    rw [if_neg (show name ∉ (started gateways interfaces).2.wanInterfaces.keys from hno)] at hlink
    rw [Mealy.run_nil, SNMPPoller.poll] at heq
    rw [heq, hstate, Option.some.injEq] at hmock
    have hlinkUp : ((started gateways interfaces).1.wanState 0 name).linkUp = none := by
      rw [← hmock]
      exact hlink
    simp [MockSNMPPoller.wanState, started, init, hsome] at hlinkUp

theorem FaithfulStandIn.standsIn (h : FaithfulStandIn gateways interfaces)
    (hne : gateways.items ≠ []) : StandsIn gateways interfaces :=
  ⟨(h []).1, h.address_ne hne, h.all_or_none hne⟩

/-- For distinct addresses the mock stands in faithfully for the real poller exactly if its
default WAN exists, no address is empty, and links are configured for all WANs or none. -/
theorem faithful_stand_in_iff (hne : gateways.items ≠ []) (hdistinct : gateways.values.Nodup) :
    FaithfulStandIn gateways interfaces ↔ StandsIn gateways interfaces :=
  ⟨fun h ↦ h.standsIn hne, fun h ↦ h.faithful hne hdistinct⟩

def defaultInterfaces : Dict String ℤ := ⟨[("WAN1", 1), ("WAN2", 2)], by decide⟩

theorem defaultGateways_stand_in :
    (FaithfulStandIn defaultGateways defaultInterfaces ↔
      StandsIn defaultGateways defaultInterfaces) ∧
    FaithfulStandIn defaultGateways defaultInterfaces := by
  have h : FaithfulStandIn defaultGateways defaultInterfaces ↔
      StandsIn defaultGateways defaultInterfaces := faithful_stand_in_iff (by decide) (by decide)
  exact ⟨h, h.mpr ⟨by decide, by decide, Or.inr (by decide)⟩⟩

def fiberGateways : Dict String String := ⟨[("fiber", "10.0.0.1")], by decide⟩

/-- Without a WAN1 the active WAN of a new mock is unknown. -/
theorem fiberGateways_not_faithful :
    fiberGateways.items ≠ [] ∧ fiberGateways.values.Nodup ∧
      ¬FaithfulStandIn fiberGateways ∅ := by
  refine ⟨by decide, by decide, ?_⟩
  intro h
  exact absurd (h []).1 (by decide)

end MockSNMPPoller

end WanRouter
