import WanRouter.Lib.Simulation
import WanRouter.Local.EngineState
import WanRouter.Local.Iterations

/-!
# Heartbeats and alerts tell the same

A step of the monitor makes at most one call of its engine, so for the engine a run
of the monitor is a run of calls, however the tasks take turns.  The alerts handed
to Telegram are those of the calls; therefore what a heartbeat reports about a WAN
agrees with the last alert about it.
-/

namespace WanRouter

open OrderedDict EdgeDetector

namespace AlertEngine

/-- The alerts of the `process_wan_state` calls, in order. -/
def allWanAlerts (self : AlertEngine) : List EngineCall → List AlertEvent
  | [] => []
  | c :: calls =>
      (if c.observation?.isSome then (self.call c).2 else []) ++
        allWanAlerts (self.call c).1 calls

theorem allWanAlerts_append (self : AlertEngine) (calls more : List EngineCall) :
    allWanAlerts self (calls ++ more) =
      allWanAlerts self calls ++ allWanAlerts (Mealy.run call self calls) more := by
  induction calls generalizing self with
  | nil => rfl
  | cons c calls ih => simp [allWanAlerts, ih]

/-- Whether an alert tells that the interface went down or came back. -/
def isWanAlert (interface : String) (alert : AlertEvent) : Bool :=
  alert.title = interface ++ " DOWN" || alert.title = interface ++ " RECOVERED"

theorem wanTitle_eq_recovered_iff (n interface : String) {status : InterfaceStatus}
    (h : status ≠ .unknown) :
    wanTitle n status = interface ++ " RECOVERED" ↔ n = interface ∧ status = .up := by
  cases status with
  | unknown => exact absurd rfl h
  | up => simp [wanTitle]
  | down =>
      have hne : n ++ " DOWN" ≠ interface ++ " RECOVERED" := by
        intro heq
        have hlast := congrArg (fun s ↦ s.toList.getLast?) heq
        simp [String.toList_append, List.getLast?_append] at hlast
      simp [wanTitle, hne]

theorem isWanAlert_of_title {interface n : String} {status : InterfaceStatus}
    (h : status ≠ .unknown) {alert : AlertEvent} (htitle : alert.title = wanTitle n status) :
    isWanAlert interface alert = true ↔ n = interface := by
  rw [isWanAlert, Bool.or_eq_true, decide_eq_true_eq, decide_eq_true_eq, htitle,
    wanTitle_eq_down_iff, wanTitle_eq_recovered_iff _ _ h]
  cases status <;> simp_all

/-- The titles single out the alerts of one interface. -/
theorem filter_allWanAlerts (self : AlertEngine) {calls : List EngineCall}
    (hcalls : ∀ c ∈ calls, c.UpOrDown) (interface : String) :
    (allWanAlerts self calls).filter (isWanAlert interface) =
      wanAlertsOf interface self calls := by
  induction calls generalizing self with
  | nil => rfl
  | cons c calls ih =>
      rw [allWanAlerts, List.filter_append, wanAlertsOf_cons,
        ih _ fun d hd ↦ hcalls d (by simp [hd])]
      congr 1
      cases c with
      | syslogEvent now event => rfl
      | wanState now state allStates =>
          have hstatus : state.status ≠ .unknown := hcalls _ List.mem_cons_self _ rfl
          change (self.processWanState now state allStates).2.filter (isWanAlert interface) =
            if some state.interface = some interface then
              (self.processWanState now state allStates).2 else []
          by_cases hi : state.interface = interface
          · rw [if_pos (congrArg some hi), List.filter_eq_self]
            exact fun alert halert ↦
              (isWanAlert_of_title hstatus (title_of_mem_call hstatus halert)).mpr hi
          · rw [if_neg (by simpa using hi), List.filter_eq_nil_iff]
            exact fun alert halert htrue ↦
              hi ((isWanAlert_of_title hstatus (title_of_mem_call hstatus halert)).mp htrue)

variable {routerIp routerName : String} {calls : List EngineCall}

theorem alternates_wanAlertsOf (hcalls : ∀ c ∈ calls, c.UpOrDown) (interface : String) :
    Alternates (interface ++ " DOWN") (interface ++ " RECOVERED")
      ((wanAlertsOf interface (init routerIp routerName) calls).map AlertEvent.title) := by
  have hedges := alternates_history_edges (init routerIp routerName).level
    (observations calls) interface rfl (observations_upOrDown hcalls)
  rw [map_title_wanAlertsOf _ hcalls]
  exact hedges.map (wanTitle interface)

/-- The last alert about an interface is DOWN exactly if the status reported for it is. -/
theorem getLast?_wanAlertsOf_iff (hcalls : ∀ c ∈ calls, c.UpOrDown) (interface : String) :
    ((wanAlertsOf interface (init routerIp routerName) calls).map AlertEvent.title).getLast? =
        some (interface ++ " DOWN") ↔
      ((Mealy.run call (init routerIp routerName) calls).previousWan.get? interface).map
        WANState.status = some .down := by
  have hlast := getLastD_history_edges (init routerIp routerName).level (observations calls)
    interface
  rw [final_apply, level_init] at hlast
  rw [(holds_run routerIp routerName hcalls interface).previous, map_title_wanAlertsOf _ hcalls,
    List.getLast?_map, map_wanTitle_eq_some_down_iff, level_init,
    ← getLastD_eq_iff (by decide : InterfaceStatus.up ≠ .down),
    ← getLastD_eq_iff (by decide : InterfaceStatus.up ≠ .down), hlast]

end AlertEngine

namespace LocalMonitor

open AlertEngine

/-- The calls that a step makes of the engine. -/
def engineCalls (self : LocalMonitor) : MonitorEvent → List EngineCall
  | .process now =>
      match self.position with
      | .processing _ allStates (state :: _) => [.wanState now state (some allStates)]
      | _ => []
  | .syslog now event => [.syslogEvent now event]
  | _ => []

/-- The alerts handed to Telegram by the poll loop so far, with the one being sent. -/
def handed (self : LocalMonitor) (out : List MonitorOutput) : List AlertEvent :=
  (sends out).map Prod.fst ++ self.queued

variable {m t : LocalMonitor} {e : MonitorEvent} {o out : List MonitorOutput}

theorem Transition.engine_eq (h : Transition m e t o) :
    t.alertEngine = Mealy.run call m.alertEngine (m.engineCalls e) := by
  cases h with
  | process now hpos =>
      rw [deliver_alertEngine, engineCalls, hpos]
      rfl
  | sendReturned reply ok hpos hresult => exact deliver_alertEngine ..
  | _ => rfl

/-- For its engine a run of the monitor is a run of calls. -/
theorem engine_run {es : List MonitorEvent} (hrun : Machine.run step m es = some (t, out)) :
    t.alertEngine =
      Mealy.run call m.alertEngine (Machine.translated step engineCalls m es) :=
  Machine.view_run (fun _ _ _ _ hstep ↦ (transition_of_step hstep).engine_eq) hrun

/-- A heartbeat is put out by the step that builds it. -/
theorem heartbeat_of_step (hstep : step m e = some (t, o)) {payload : HeartbeatPayload}
    (h : payload ∈ o.filterMap MonitorOutput.heartbeat?) :
    ∃ now, e = .heartbeat now ∧ payload = m.heartbeatPayload now := by
  cases transition_of_step hstep with
  | heartbeat now hsuspended => exact ⟨now, rfl, List.mem_singleton.mp h⟩
  | _ => simp [MonitorOutput.heartbeat?] at h

/-- The calls made so far report UP or DOWN, and their alerts were handed over. -/
structure HandsOverAlerts (engine : AlertEngine) (calls : List EngineCall) (m : LocalMonitor)
    (out : List MonitorOutput) : Prop where
  engine_eq : m.alertEngine = Mealy.run call engine calls
  upOrDown : ∀ c ∈ calls, c.UpOrDown
  unprocessed : ∀ state ∈ m.unprocessed, state.status ≠ .unknown
  queued : m.queued.length ≤ 1
  handed : m.handed out = allWanAlerts engine calls

variable {engine : AlertEngine} {calls : List EngineCall}

/-- A step without a call that keeps what is handed over. -/
theorem HandsOverAlerts.frame (h : HandsOverAlerts engine calls m out)
    (hengine : t.alertEngine = m.alertEngine)
    (hunprocessed : ∀ state ∈ t.unprocessed, state.status ≠ .unknown)
    (hqueued : t.queued.length ≤ 1) (hhanded : t.handed (out ++ o) = m.handed out) :
    HandsOverAlerts engine (calls ++ []) t (out ++ o) := by
  rw [List.append_nil]
  exact ⟨hengine.trans h.engine_eq, h.upOrDown, hunprocessed, hqueued, hhanded.trans h.handed⟩

theorem HandsOverAlerts.step (h : HandsOverAlerts engine calls m out)
    (htrans : Transition m e t o) :
    HandsOverAlerts engine (calls ++ m.engineCalls e) t (out ++ o) := by
  cases htrans with
  | startPoll hpos =>
      refine h.frame rfl (by simp [LocalMonitor.unprocessed]) (by simp [LocalMonitor.queued]) ?_
      simp [LocalMonitor.handed, LocalMonitor.queued, hpos]
  | polled input interval hpos =>
      refine h.frame rfl ?_ (by simp [LocalMonitor.queued]) ?_
      · intro state hstate
        change state ∈ (m.poller.states input).values at hstate
        rw [m.poller.values_states] at hstate
        obtain ⟨name, -, rfl⟩ := List.mem_map.mp hstate
        exact m.poller.wanState_status_ne_unknown input name
      · simp [LocalMonitor.handed, LocalMonitor.queued, hpos, sends, MonitorOutput.sent?]
  | @process now interval allStates state remaining hpos =>
      have hunprocessed : m.unprocessed = state :: remaining := by
        rw [LocalMonitor.unprocessed, hpos]
      have hstatus : state.status ≠ .unknown :=
        h.unprocessed state (by rw [hunprocessed]; exact List.mem_cons_self)
      have hcalls : m.engineCalls (.process now) = [.wanState now state (some allStates)] := by
        rw [engineCalls, hpos]
      refine ⟨?_, ?_, ?_, ?_, ?_⟩
      · rw [(Transition.process now hpos).engine_eq, Mealy.run_append, ← h.engine_eq]
      · rw [hcalls]
        intro c hc
        rcases List.mem_append.mp hc with hc | hc
        · exact h.upOrDown c hc
        · obtain rfl := List.mem_singleton.mp hc
          rintro _ ⟨⟩
          exact hstatus
      · rw [unprocessed_deliver]
        exact fun s hs ↦ h.unprocessed s (by rw [hunprocessed]; exact List.mem_cons_of_mem _ hs)
      · rw [queued_deliver]
        exact AlertEngine.length_processWanState_alerts_le _ _ _
      · have hhanded := h.handed
        rw [LocalMonitor.handed, LocalMonitor.queued, hpos, List.append_nil] at hhanded
        rw [LocalMonitor.handed, queued_deliver, List.append_nil, hhanded, hcalls,
          allWanAlerts_append, ← h.engine_eq]
        exact congrArg _ (List.append_nil _).symm
  | finish hpos =>
      refine h.frame rfl (by simp [LocalMonitor.unprocessed]) (by simp [LocalMonitor.queued]) ?_
      simp [LocalMonitor.handed, LocalMonitor.queued, hpos, sends, MonitorOutput.sent?]
  | @sendReturned reply ok interval allStates remaining alert later hpos hresult =>
      have hqueued := h.queued
      rw [LocalMonitor.queued, hpos, List.length_cons] at hqueued
      obtain rfl : later = [] := List.length_eq_zero_iff.mp (by omega)
      refine h.frame rfl ?_ (by simp [LocalMonitor.deliver, LocalMonitor.queued]) ?_
      · have hunprocessed := h.unprocessed
        rwa [LocalMonitor.unprocessed, hpos] at hunprocessed
      · simp [LocalMonitor.handed, LocalMonitor.queued, LocalMonitor.deliver, hpos, sends,
          MonitorOutput.sent?]
  | @sendRaised reply interval allStates remaining alert later hpos hresult =>
      -- An alert whose send raises was handed over, and none was waiting behind it.
      have hqueued := h.queued
      rw [LocalMonitor.queued, hpos, List.length_cons] at hqueued
      obtain rfl : later = [] := List.length_eq_zero_iff.mp (by omega)
      refine h.frame rfl (by simp [LocalMonitor.unprocessed]) (by simp [LocalMonitor.queued]) ?_
      simp [LocalMonitor.handed, LocalMonitor.queued, hpos, sends, MonitorOutput.sent?]
  | heartbeat now hsuspended =>
      refine h.frame rfl h.unprocessed h.queued ?_
      simp [LocalMonitor.handed, sends, MonitorOutput.sent?]
  | syslog now event hsuspended =>
      refine ⟨h.engine_eq.trans (by rw [Mealy.run_append]; rfl), ?_, h.unprocessed, h.queued, ?_⟩
      · intro c hc
        rcases List.mem_append.mp hc with hc | hc
        · exact h.upOrDown c hc
        · obtain rfl := List.mem_singleton.mp hc
          rintro _ ⟨⟩
      · rw [allWanAlerts_append, LocalMonitor.handed, sends_append, sends_dispatched,
          List.append_nil]
        exact h.handed.trans (List.append_nil _).symm

theorem handsOverAlerts_run (config : LocalConfig) (telegram : TelegramNotifier)
    {es : List MonitorEvent} (hrun : Machine.run step (init config telegram) es = some (m, out)) :
    HandsOverAlerts (AlertEngine.init config.router.host config.router.name)
      (Machine.translated step engineCalls (init config telegram) es) m out := by
  refine Machine.run_induction step
    (P := fun es m out ↦ HandsOverAlerts (AlertEngine.init config.router.host config.router.name)
      (Machine.translated step engineCalls (init config telegram) es) m out)
    ⟨rfl, by simp, by simp [LocalMonitor.unprocessed, init], by simp [LocalMonitor.queued, init],
      by simp [LocalMonitor.handed, LocalMonitor.queued, init, sends, allWanAlerts]⟩
    ?_ es m out hrun
  intro es m out e t o hbefore ih hstep
  rw [Machine.translated_concat step engineCalls hbefore hstep]
  exact ih.step (transition_of_step hstep)

variable {config : LocalConfig} {telegram : TelegramNotifier} {es : List MonitorEvent}

theorem alternates_handed (hrun : Machine.run step (init config telegram) es = some (m, out))
    (name : String) :
    Alternates (name ++ " DOWN") (name ++ " RECOVERED")
      (((m.handed out).filter (isWanAlert name)).map AlertEvent.title) := by
  have h := handsOverAlerts_run config telegram hrun
  rw [h.handed, filter_allWanAlerts _ h.upOrDown]
  exact alternates_wanAlertsOf h.upOrDown name

theorem heartbeat_down_iff (hrun : Machine.run step (init config telegram) es = some (m, out))
    (name : String) (now : ℤ) :
    ((m.heartbeatPayload now).wanStates.get? name).map WANState.status = some .down ↔
      (((m.handed out).filter (isWanAlert name)).map AlertEvent.title).getLast? =
        some (name ++ " DOWN") := by
  have h := handsOverAlerts_run config telegram hrun
  rw [h.handed, filter_allWanAlerts _ h.upOrDown, getLast?_wanAlertsOf_iff h.upOrDown]
  exact iff_of_eq (congrArg (fun engine : AlertEngine ↦
    (engine.previousWan.get? name).map WANState.status = some .down) h.engine_eq)

/-- However the tasks take turns, and whatever the sends do: the alerts about a WAN that the
poll loop hands over alternate between DOWN and RECOVERED, and a heartbeat reports the WAN as
DOWN exactly if the last of them is DOWN. -/
theorem heartbeat_agrees_with_alerts (config : LocalConfig) (telegram : TelegramNotifier)
    {es : List MonitorEvent} {m : LocalMonitor} {out : List MonitorOutput}
    (hrun : Machine.run step (init config telegram) es = some (m, out)) (name : String) :
    Alternates (name ++ " DOWN") (name ++ " RECOVERED")
      (((m.handed out).filter (isWanAlert name)).map AlertEvent.title) ∧
    ∀ now, ((m.heartbeatPayload now).wanStates.get? name).map WANState.status = some .down ↔
      (((m.handed out).filter (isWanAlert name)).map AlertEvent.title).getLast? =
        some (name ++ " DOWN") :=
  ⟨alternates_handed hrun name, heartbeat_down_iff hrun name⟩

/-- The alert for WAN2 is still being sent when the heartbeat reports it. -/
theorem settledTrace_agrees :
    ∃ m out, Machine.run step (init { router := dualWan } {}) settledTrace = some (m, out) ∧
      ((((m.handed out).filter (isWanAlert "WAN2")).map AlertEvent.title).getLast? =
        some "WAN2 DOWN") ∧
      ((m.heartbeatPayload 0).wanStates.get? "WAN2").map WANState.status = some .down := by
  obtain ⟨m, out, hrun, hlast⟩ : ∃ m out,
      Machine.run step (init { router := dualWan } {}) settledTrace = some (m, out) ∧
        (((m.handed out).filter (isWanAlert "WAN2")).map AlertEvent.title).getLast? =
          some "WAN2 DOWN" := ⟨_, _, rfl, rfl⟩
  exact ⟨m, out, hrun, hlast, ((heartbeat_agrees_with_alerts _ _ hrun "WAN2").2 0).mpr hlast⟩

end LocalMonitor

end WanRouter
