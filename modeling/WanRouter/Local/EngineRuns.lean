import WanRouter.Lib.EdgeDetector
import WanRouter.Local.AlertEngine

/-!
# Runs of the alert engine

A run is any sequence of `process_wan_state` and `process_syslog_event` calls on
one engine.  The levels of the engine and the titles of the alerts it returns
refine the keyed edge detector that starts with every level at UP.
-/

namespace WanRouter

open OrderedDict EdgeDetector

inductive EngineCall where
  | wanState (now : ℤ) (state : WANState) (allStates : Option (Dict String WANState))
  | syslogEvent (now : ℤ) (event : SyslogEvent)
  deriving DecidableEq

namespace EngineCall

def observation? : EngineCall → Option (String × InterfaceStatus)
  | wanState _ state _ => some (state.interface, state.status)
  | syslogEvent _ _ => none

/-- The pollers only report UP and DOWN. -/
def UpOrDown (call : EngineCall) : Prop := ∀ o ∈ call.observation?, o.2 ≠ .unknown

instance (call : EngineCall) : Decidable call.UpOrDown := by
  unfold UpOrDown
  infer_instance

end EngineCall

def observations (calls : List EngineCall) : List (String × InterfaceStatus) :=
  calls.filterMap EngineCall.observation?

theorem observations_cons (c : EngineCall) (calls : List EngineCall) :
    observations (c :: calls) = c.observation?.toList ++ observations calls := by
  cases hc : c.observation? <;> simp [observations, hc]

/-- The last status observed for an interface; UP before the first observation. -/
def lastStatus (interface : String) (calls : List EngineCall) : InterfaceStatus :=
  (history interface (observations calls)).getLastD .up

namespace AlertEngine

def init (routerIp routerName : String) : AlertEngine :=
  { routerIp := routerIp, routerName := routerName }

def call (self : AlertEngine) : EngineCall → AlertEngine × List AlertEvent
  | .wanState now state allStates => self.processWanState now state allStates
  | .syslogEvent now event => (self, self.processSyslogEvent now event)

/-- The alerts returned by the `process_wan_state` calls for one interface. -/
def wanAlertsOf (interface : String) (self : AlertEngine) (calls : List EngineCall) :
    List AlertEvent :=
  ((calls.zip (Mealy.outputs call self calls)).filter fun p ↦
    p.1.observation?.map Prod.fst = some interface).flatMap Prod.snd

theorem wanAlertsOf_cons (interface : String) (self : AlertEngine) (c : EngineCall)
    (calls : List EngineCall) :
    wanAlertsOf interface self (c :: calls) =
      (if c.observation?.map Prod.fst = some interface then (self.call c).2 else []) ++
        wanAlertsOf interface (self.call c).1 calls := by
  by_cases hc : c.observation?.map Prod.fst = some interface <;> simp [wanAlertsOf, hc]

@[simp] theorem level_init (routerIp routerName : String) :
    (init routerIp routerName).level = fun _ ↦ .up := rfl

/-- One call moves the levels as the edge detector does. -/
theorem level_call (self : AlertEngine) {c : EngineCall} (hc : c.UpOrDown) :
    (self.call c).1.level = final self.level c.observation?.toList := by
  cases c with
  | syslogEvent now event => rfl
  | wanState now state allStates =>
      exact self.processWanState_level now allStates (hc _ rfl)

theorem level_run (self : AlertEngine) {calls : List EngineCall}
    (hcalls : ∀ c ∈ calls, c.UpOrDown) :
    (Mealy.run call self calls).level = final self.level (observations calls) := by
  induction calls generalizing self with
  | nil => rfl
  | cons c calls ih =>
      rw [Mealy.run_cons, ih _ fun d hd ↦ hcalls d (by simp [hd]),
        self.level_call (hcalls c (by simp)), observations_cons, final_append]

/-- The alert of one call, if any, is the edge it reports. -/
theorem map_title_processWanState (self : AlertEngine) (now : ℤ) {state : WANState}
    (allStates : Option (Dict String WANState)) (h : state.status ≠ .unknown) :
    (self.processWanState now state allStates).2.map AlertEvent.title =
      if state.status = self.level state.interface then []
      else [wanTitle state.interface state.status] := by
  rw [processWanState_alerts self now allStates h]
  by_cases hs : state.status = self.level state.interface
  · simp [hs]
  · rw [if_neg hs, if_neg hs, List.map_singleton, title_changeAlert self now allStates h]

theorem title_of_mem_call {self : AlertEngine} {now : ℤ} {state : WANState}
    {allStates : Option (Dict String WANState)} (h : state.status ≠ .unknown)
    {alert : AlertEvent} (halert : alert ∈ (self.processWanState now state allStates).2) :
    alert.title = wanTitle state.interface state.status := by
  have hmem : alert.title ∈
      (self.processWanState now state allStates).2.map AlertEvent.title :=
    List.mem_map_of_mem halert
  rw [map_title_processWanState self now allStates h] at hmem
  by_cases hs : state.status = self.level state.interface
  · rw [if_pos hs] at hmem
    exact (List.not_mem_nil hmem).elim
  · rw [if_neg hs] at hmem
    exact List.mem_singleton.mp hmem

theorem map_title_call (self : AlertEngine) {c : EngineCall} (hc : c.UpOrDown)
    (interface : String) :
    (if c.observation?.map Prod.fst = some interface then (self.call c).2 else []).map
        AlertEvent.title =
      (history interface (edges self.level c.observation?.toList)).map (wanTitle interface) := by
  cases c with
  | syslogEvent now event => rfl
  | wanState now state allStates =>
      change (if some state.interface = some interface then
          (self.processWanState now state allStates).2 else []).map AlertEvent.title =
        (history interface (edges self.level [(state.interface, state.status)])).map
          (wanTitle interface)
      rw [edges_cons, edges_nil, List.append_nil]
      by_cases hi : state.interface = interface
      · subst hi
        rw [if_pos rfl, self.map_title_processWanState now allStates (hc _ rfl)]
        by_cases hs : state.status = self.level state.interface
        · simp [hs]
        · simp [hs, history_cons_self]
      · have hne : ¬some state.interface = some interface := by simpa using hi
        rw [if_neg hne]
        by_cases hs : state.status = self.level state.interface
        · simp [hs]
        · simp [hs, history_cons_of_ne hi]

theorem map_title_wanAlertsOf (self : AlertEngine) {calls : List EngineCall}
    (hcalls : ∀ c ∈ calls, c.UpOrDown) (interface : String) :
    (wanAlertsOf interface self calls).map AlertEvent.title =
      (history interface (edges self.level (observations calls))).map (wanTitle interface) := by
  induction calls generalizing self with
  | nil => rfl
  | cons c calls ih =>
      have hc := hcalls c (by simp)
      rw [wanAlertsOf_cons, List.map_append, self.map_title_call hc interface,
        ih _ fun d hd ↦ hcalls d (by simp [hd]), self.level_call hc, ← List.map_append,
        ← history_append, ← edges_append, ← observations_cons]

theorem observations_upOrDown {calls : List EngineCall} (hcalls : ∀ c ∈ calls, c.UpOrDown) :
    ∀ o ∈ observations calls, o.2 = .up ∨ o.2 = .down := by
  intro o ho
  obtain ⟨c, hc, hco⟩ := List.mem_filterMap.mp ho
  have hne := hcalls c hc o hco
  cases hs : o.2 <;> simp_all

theorem getLastD_eq_iff {α : Type*} {a d : α} (h : d ≠ a) {l : List α} :
    l.getLastD d = a ↔ l.getLast? = some a := by
  rw [List.getLastD_eq_getLast?]
  cases l.getLast? <;> simp [h]

theorem map_wanTitle_eq_some_down_iff (interface : String) (status : Option InterfaceStatus) :
    status.map (wanTitle interface) = some (interface ++ " DOWN") ↔ status = some .down := by
  cases status <;> simp [wanTitle_eq_down_iff]

/-- The alerts of an interface alternate, and the last of them tells its last
observed status. -/
theorem wan_alerts_edge_exact (routerIp routerName : String) {calls : List EngineCall}
    (hcalls : ∀ c ∈ calls, c.UpOrDown) :
    (∀ interface,
      Alternates (interface ++ " DOWN") (interface ++ " RECOVERED")
        ((wanAlertsOf interface (init routerIp routerName) calls).map AlertEvent.title)) ∧
    (∀ pre now state allStates post, calls = pre ++ .wanState now state allStates :: post →
      ((Mealy.run call (init routerIp routerName) pre).processWanState now state
          allStates).2.map AlertEvent.title =
        if state.status = lastStatus state.interface pre then []
        else [wanTitle state.interface state.status]) ∧
    ∀ pre post, calls = pre ++ post → ∀ interface,
      ((wanAlertsOf interface (init routerIp routerName) pre).map
          AlertEvent.title).getLast? = some (interface ++ " DOWN") ↔
        (history interface (observations pre)).getLast? = some .down := by
  refine ⟨?_, ?_, ?_⟩
  · intro interface
    rw [map_title_wanAlertsOf _ hcalls]
    have hedges := alternates_history_edges (init routerIp routerName).level
      (observations calls) interface rfl (observations_upOrDown hcalls)
    exact hedges.map (wanTitle interface)
  · rintro pre now state allStates post rfl
    have hpre : ∀ c ∈ pre, c.UpOrDown := fun c hc ↦ hcalls c (by simp [hc])
    have hstate : state.status ≠ .unknown :=
      hcalls (.wanState now state allStates) (by simp) _ rfl
    rw [map_title_processWanState _ now allStates hstate, level_run _ hpre, final_apply]
    rfl
  · rintro pre post rfl interface
    have hpre : ∀ c ∈ pre, c.UpOrDown := fun c hc ↦ hcalls c (by simp [hc])
    have hlast := getLastD_history_edges (init routerIp routerName).level (observations pre)
      interface
    rw [final_apply, level_init] at hlast
    rw [map_title_wanAlertsOf _ hpre, List.getLast?_map, level_init,
      ← getLastD_eq_iff (by decide : InterfaceStatus.up ≠ .down), ← hlast,
      getLastD_eq_iff (by decide : InterfaceStatus.up ≠ .down)]
    exact map_wanTitle_eq_some_down_iff interface _

theorem wan_alerts_down_up :
    Alternates "WAN1 DOWN" "WAN1 RECOVERED"
      ((wanAlertsOf "WAN1" (init "192.168.0.1" "router")
        [.wanState 0 { interface := "WAN1", status := .down, since := 0 } none,
          .wanState 0 { interface := "WAN1", status := .up, since := 0 } none]).map
        AlertEvent.title) :=
  (wan_alerts_edge_exact "192.168.0.1" "router" (by decide)).1 "WAN1"

end AlertEngine

end WanRouter
