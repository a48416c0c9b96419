import WanRouter.Lib.Periods
import WanRouter.Local.EngineRuns

/-!
# What the engine holds about an interface

After any run the data about an interface is a function of the statuses observed
for it: its tracked status, its count of stable calls and the state that the
heartbeats report.  The flag for the short poll interval follows from the first
two.
-/

namespace WanRouter

open OrderedDict EdgeDetector Periods

namespace AlertState

theorem level_ne_unknown (self : AlertState) : self.level ≠ .unknown := by
  cases hs : self.currentStatus <;> simp [level, hs]

theorem currentStatus_eq_down_iff (self : AlertState) :
    self.currentStatus = .down ↔ self.level = .down := by
  cases hs : self.currentStatus <;> simp [level, hs]

variable (self : AlertState) (now : ℤ) {status : InterfaceStatus}

theorem consecutiveStable_observe (h : status ≠ .unknown) :
    (self.observe now status).consecutiveStable =
      if self.level = status then self.consecutiveStable + 1 else 0 := by
  have hiff := self.shouldAlert_eq_true_iff h
  by_cases hs : self.level = status
  · rw [if_pos hs, observe, if_neg fun hyes ↦ hiff.mp hyes hs.symm]
  · rw [if_neg hs, observe, if_pos (hiff.mpr (Ne.symm hs))]

theorem currentStatus_observe (h : status ≠ .unknown) :
    (self.observe now status).currentStatus =
      if self.level = status then self.currentStatus else status := by
  have hiff := self.shouldAlert_eq_true_iff h
  by_cases hs : self.level = status
  · rw [if_pos hs, observe, if_neg fun hyes ↦ hiff.mp hyes hs.symm]
  · rw [if_neg hs, observe, if_pos (hiff.mpr (Ne.symm hs))]

/-- The two tests that `should_use_alert_interval` makes on one interface. -/
def Alerting (self : AlertState) : Prop := self.level = .down ∨ self.consecutiveStable < 5

end AlertState

namespace AlertEngine

theorem shouldUseAlertInterval_iff (self : AlertEngine) :
    self.shouldUseAlertInterval = true ↔
      ∃ name ∈ self.wanStates.keys, (self.alertState name).Alerting := by
  simp only [shouldUseAlertInterval, List.any_eq_true, Dict.mem_values_iff, Bool.or_eq_true,
    decide_eq_true_eq, AlertState.currentStatus_eq_down_iff]
  constructor
  · rintro ⟨state, ⟨name, hname⟩, halerting⟩
    refine ⟨name, Dict.mem_keys_of_get? hname, ?_⟩
    rwa [alertState, hname]
  · rintro ⟨name, hname, halerting⟩
    obtain ⟨state, hstate⟩ := Dict.exists_get?_of_mem_keys hname
    rw [alertState, hstate] at halerting
    exact ⟨state, ⟨name, hstate⟩, halerting⟩

theorem mem_keys_processWanState (self : AlertEngine) (now : ℤ) (state : WANState)
    (allStates : Option (Dict String WANState)) {interface : String} :
    interface ∈ (self.processWanState now state allStates).1.wanStates.keys ↔
      interface ∈ self.wanStates.keys ∨ interface = state.interface := Dict.mem_keys_set

/-- The data about an interface as a function of the statuses observed for it. -/
structure Holds (engine : AlertEngine) (interface : String)
    (statuses : List InterfaceStatus) : Prop where
  tracked : interface ∈ engine.wanStates.keys ↔ statuses ≠ []
  level : engine.level interface = statuses.getLastD .up
  stable : (engine.alertState interface).consecutiveStable = sinceChange .up statuses
  current : (engine.alertState interface).currentStatus =
    if .down ∈ statuses then statuses.getLastD .up else .unknown
  previous : (engine.previousWan.get? interface).map WANState.status = statuses.getLast?

theorem holds_init (routerIp routerName interface : String) :
    (init routerIp routerName).Holds interface [] where
  tracked := iff_of_false List.not_mem_nil (not_not.mpr rfl)
  level := rfl
  stable := rfl
  current := rfl
  previous := rfl

variable {self : AlertEngine} {interface : String} {statuses : List InterfaceStatus}

/-- A tracked status that was ever DOWN is the last one observed. -/
theorem Holds.current_observe (h : self.Holds interface statuses) (now : ℤ)
    {status : InterfaceStatus} (hstatus : status ≠ .unknown) :
    ((self.alertState interface).observe now status).currentStatus =
      if .down ∈ statuses ++ [status] then status else .unknown := by
  have hdown : self.level interface = .down → .down ∈ statuses := by
    intro hlevel
    rw [h.level, getLastD_eq_iff (by decide)] at hlevel
    exact List.mem_of_getLast? hlevel
  have hlevel := h.level
  rw [AlertEngine.level] at hlevel hdown
  rw [AlertState.currentStatus_observe _ _ hstatus, h.current]
  by_cases heq : (self.alertState interface).level = status
  · rw [if_pos heq, ← hlevel, heq]
    by_cases hmem : .down ∈ statuses
    · rw [if_pos hmem, if_pos (List.mem_append_left _ hmem)]
    · have hup : status ≠ .down := fun hs ↦ hmem (hdown (heq.trans hs))
      rw [if_neg hmem, if_neg (by simp [hmem, hup.symm])]
  · rw [if_neg heq, if_pos]
    rw [List.mem_append, List.mem_singleton]
    cases status with
    | down => exact Or.inr rfl
    | unknown => exact absurd rfl hstatus
    | up =>
        refine Or.inl (hdown ?_)
        cases hs : (self.alertState interface).level with
        | down => rfl
        | up => exact absurd hs heq
        | unknown => exact absurd hs (self.alertState interface).level_ne_unknown

theorem Holds.processWanState_self {state : WANState}
    (h : self.Holds state.interface statuses) (now : ℤ)
    (allStates : Option (Dict String WANState)) (hstatus : state.status ≠ .unknown) :
    (self.processWanState now state allStates).1.Holds state.interface
      (statuses ++ [state.status]) := by
  have hstate : (self.processWanState now state allStates).1.alertState state.interface =
      (self.alertState state.interface).observe now state.status := by
    rw [processWanState_alertState, if_pos rfl]
  have hlevel := h.level
  rw [AlertEngine.level] at hlevel
  constructor
  · rw [mem_keys_processWanState]
    simp
  · rw [processWanState_level _ _ _ hstatus, Function.update_self, List.getLastD_concat]
  · rw [hstate, AlertState.consecutiveStable_observe _ _ hstatus, sinceChange_concat, h.stable,
      hlevel]
  · rw [hstate, h.current_observe now hstatus, List.getLastD_concat]
  · rw [List.getLast?_concat]
    exact congrArg (Option.map WANState.status) (Dict.get?_set_self _ _ _)

theorem Holds.processWanState_of_ne (h : self.Holds interface statuses) (now : ℤ)
    {state : WANState} (allStates : Option (Dict String WANState))
    (hne : interface ≠ state.interface) :
    (self.processWanState now state allStates).1.Holds interface statuses := by
  have hagrees := agreesAt_processWanState_of_ne self now allStates hne
  have hstate : (self.processWanState now state allStates).1.alertState interface =
      self.alertState interface := by
    rw [processWanState_alertState, if_neg hne]
  constructor
  · rw [mem_keys_processWanState, or_iff_left hne]
    exact h.tracked
  · rw [hagrees.level_eq]
    exact h.level
  · rw [hstate]
    exact h.stable
  · rw [hstate]
    exact h.current
  · rw [hagrees.previous]
    exact h.previous

theorem holds_run (routerIp routerName : String) {calls : List EngineCall}
    (hcalls : ∀ c ∈ calls, c.UpOrDown) (interface : String) :
    (Mealy.run call (init routerIp routerName) calls).Holds interface
      (history interface (observations calls)) := by
  induction calls using List.reverseRecOn with
  | nil => exact holds_init routerIp routerName interface
  | append_singleton calls c ih =>
      have h := ih fun d hd ↦ hcalls d (by simp [hd])
      have hc := hcalls c (by simp)
      have hhistory : observations (calls ++ [c]) =
          observations calls ++ c.observation?.toList := by
        rw [observations, List.filterMap_append]
        cases c <;> rfl
      rw [Mealy.run_append, hhistory, history_append]
      cases c with
      | syslogEvent now event => simpa [EngineCall.observation?, call] using h
      | wanState now state allStates =>
          by_cases hi : interface = state.interface
          · subst hi
            have hself := h.processWanState_self now allStates (hc _ rfl)
            simpa [EngineCall.observation?, call, history_cons_self] using hself
          · have hother := h.processWanState_of_ne now allStates hi
            simpa [EngineCall.observation?, call, history_cons_of_ne (Ne.symm hi)] using hother

/-- The short interval is used exactly while some observed interface is DOWN or has
seen fewer than five calls since its last change, its first status counting as a
change if it is DOWN. -/
theorem alert_interval_iff (routerIp routerName : String) {calls : List EngineCall}
    (hcalls : ∀ c ∈ calls, c.UpOrDown) :
    (Mealy.run call (init routerIp routerName) calls).shouldUseAlertInterval = true ↔
      ∃ interface, history interface (observations calls) ≠ [] ∧
        (lastStatus interface calls = .down ∨
          sinceChange .up (history interface (observations calls)) < 5) := by
  rw [shouldUseAlertInterval_iff]
  apply exists_congr
  intro interface
  have h := holds_run routerIp routerName hcalls interface
  rw [h.tracked, AlertState.Alerting, h.stable, lastStatus, ← h.level, AlertEngine.level]

def fiveUp : List EngineCall :=
  List.replicate 5 (.wanState 0 { interface := "WAN1", status := .up, since := 0 } none)

theorem alert_interval_fiveUp :
    ((Mealy.run call (init "192.168.0.1" "router") fiveUp).shouldUseAlertInterval = true ↔
      ∃ interface, history interface (observations fiveUp) ≠ [] ∧
        (lastStatus interface fiveUp = .down ∨
          sinceChange .up (history interface (observations fiveUp)) < 5)) ∧
    (Mealy.run call (init "192.168.0.1" "router") fiveUp).shouldUseAlertInterval = false :=
  ⟨alert_interval_iff "192.168.0.1" "router" (by decide), rfl⟩

/-! ## The two maps -/

theorem keys_run (routerIp routerName : String) (calls : List EngineCall) :
    (Mealy.run call (init routerIp routerName) calls).wanStates.keys =
      (Mealy.run call (init routerIp routerName) calls).previousWan.keys := by
  refine Mealy.run_invariant call (fun e ↦ e.wanStates.keys = e.previousWan.keys) ?_ rfl
    fun _ _ ↦ trivial
  intro e c _ he
  cases c with
  | syslogEvent now event => exact he
  | wanState now state allStates =>
      change (e.wanStates.set _ _).keys = (e.previousWan.set _ _).keys
      rw [Dict.keys_set, Dict.keys_set, he]

/-- Both maps have the same keys.  The tracked status of an interface that was ever
DOWN is the status that heartbeats report; before that it is UNKNOWN. -/
theorem tracked_status_of_observed (routerIp routerName : String) {calls : List EngineCall}
    (hcalls : ∀ c ∈ calls, c.UpOrDown) {engine : AlertEngine}
    (hengine : engine = Mealy.run call (init routerIp routerName) calls) :
    engine.wanStates.keys = engine.previousWan.keys ∧
      ∀ name ∈ engine.wanStates.keys, ∃ tracked reported,
        engine.wanStates.get? name = some tracked ∧
        engine.getCurrentWanStates.get? name = some reported ∧
        reported.status = lastStatus name calls ∧
        tracked.currentStatus =
          if .down ∈ history name (observations calls) then reported.status
          else .unknown := by
  subst hengine
  have hkeys := keys_run routerIp routerName calls
  refine ⟨hkeys, ?_⟩
  intro name hname
  have h := holds_run routerIp routerName hcalls name
  obtain ⟨tracked, htracked⟩ := Dict.exists_get?_of_mem_keys hname
  obtain ⟨reported, hreported⟩ := Dict.exists_get?_of_mem_keys (hkeys ▸ hname)
  have hlast : (history name (observations calls)).getLast? = some reported.status := by
    rw [← h.previous, hreported, Option.map_some]
  have hstatus : reported.status = (history name (observations calls)).getLastD .up := by
    rw [List.getLastD_eq_getLast?, hlast, Option.getD_some]
  have hcurrent := h.current
  rw [alertState, htracked, Option.getD_some, ← hstatus] at hcurrent
  exact ⟨tracked, reported, htracked, hreported, hstatus, hcurrent⟩

theorem tracked_status_fiveUp :
    ∃ tracked reported,
      (Mealy.run call (init "192.168.0.1" "router") fiveUp).wanStates.get? "WAN1" =
        some tracked ∧
      (Mealy.run call (init "192.168.0.1" "router") fiveUp).getCurrentWanStates.get? "WAN1" =
        some reported ∧
      reported.status = .up ∧ tracked.currentStatus = .unknown := by
  have hcalls : ∀ c ∈ fiveUp, c.UpOrDown := by decide
  obtain ⟨tracked, reported, htracked, hreported, hstatus, hcurrent⟩ :=
    (tracked_status_of_observed "192.168.0.1" "router" hcalls rfl).2 "WAN1" (by decide)
  exact ⟨tracked, reported, htracked, hreported, hstatus, hcurrent.trans (if_neg (by decide))⟩

/-- After five UPs the engine tracks UNKNOWN where the heartbeat reports UP. -/
theorem fiveUp_tracked_unknown :
    (∀ c ∈ fiveUp, c.UpOrDown) ∧
      ((Mealy.run call (init "192.168.0.1" "router") fiveUp).wanStates.get? "WAN1").map
        AlertState.currentStatus = some .unknown ∧
      ((Mealy.run call (init "192.168.0.1" "router") fiveUp).getCurrentWanStates.get?
        "WAN1").map WANState.status = some .up :=
  ⟨by decide, rfl, rfl⟩

end AlertEngine

end WanRouter
