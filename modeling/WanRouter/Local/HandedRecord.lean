import WanRouter.Local.AlertTexts

/-!
# The handed texts as a record

A reader who takes the texts handed to `send_alert` one by one, delivered or not, gets the
changes of the WANs, in order and with all that was known about each, as they follow from
the states that the poll loop processed.  No change is missing, and no text adds one.
-/

namespace WanRouter

open OrderedDict EdgeDetector AlertEngine TelegramNotifier

/-! ## The changes in a list of processed states -/

namespace EngineCall

def stateOf? (interface : String) : EngineCall → Option WANState
  | wanState _ state _ => if state.interface = interface then some state else none
  | syslogEvent _ _ => none

end EngineCall

/-- The last state processed for an interface. -/
def lastSeen (interface : String) (calls : List EngineCall) : Option WANState :=
  (calls.filterMap (EngineCall.stateOf? interface)).getLast?

/-- The change that a call sees after these calls.  A WAN counts as UP before its first state. -/
def change? (seen : List EngineCall) : EngineCall → Option WanReport
  | .wanState now state allStates =>
      let previous := lastSeen state.interface seen
      if state.status = (previous.map WANState.status).getD .up then none
      else some (.ofChange now previous state allStates)
  | .syslogEvent _ _ => none

def changesFrom (seen : List EngineCall) : List EngineCall → List WanReport
  | [] => []
  | c :: calls => (change? seen c).toList ++ changesFrom (seen ++ [c]) calls

/-- The changes that a list of processed states shows, in order. -/
def changes (calls : List EngineCall) : List WanReport := changesFrom [] calls

/-! ## The engine after its calls -/

namespace AlertEngine

variable {routerIp routerName : String} {seen calls : List EngineCall}

theorem previousWan_run (routerIp routerName : String) (seen : List EngineCall)
    (interface : String) :
    (Mealy.run call (init routerIp routerName) seen).previousWan.get? interface =
      lastSeen interface seen := by
  have hwrite := Mealy.run_lastWrite call (fun e ↦ e.previousWan.get? interface)
    (EngineCall.stateOf? interface) ?_ (init routerIp routerName) seen
  · rw [hwrite]
    exact Option.or_none
  · intro e c
    cases c with
    | syslogEvent now event => rfl
    | wanState now state allStates =>
        by_cases hi : state.interface = interface
        · simp only [EngineCall.stateOf?, if_pos hi, Option.some_or]
          rw [← hi]
          exact Dict.get?_set_self _ _ _
        · simp only [EngineCall.stateOf?, if_neg hi, Option.none_or]
          exact Dict.get?_set_of_ne _ _ (Ne.symm hi)

theorem level_lastSeen (routerIp routerName : String) (hseen : ∀ c ∈ seen, c.UpOrDown)
    (interface : String) :
    (Mealy.run call (init routerIp routerName) seen).level interface =
      ((lastSeen interface seen).map WANState.status).getD .up := by
  have hholds := holds_run routerIp routerName hseen interface
  rw [hholds.level, List.getLastD_eq_getLast?, ← hholds.previous, previousWan_run]

theorem lastSeen_ne_unknown (hseen : ∀ c ∈ seen, c.UpOrDown) {interface : String}
    {previous : WANState} (h : lastSeen interface seen = some previous) :
    previous.status ≠ .unknown := by
  obtain ⟨c, hc, hstate⟩ := List.mem_filterMap.mp (List.mem_of_getLast? h)
  cases c with
  | syslogEvent now event => cases hstate
  | wanState now state allStates =>
      obtain ⟨-, hsome⟩ := Option.ite_none_right_eq_some.mp hstate
      obtain rfl := Option.some.inj hsome
      exact hseen _ hc _ rfl

theorem router_run (routerIp routerName : String) (seen : List EngineCall) :
    (Mealy.run call (init routerIp routerName) seen).routerName = routerName ∧
      (Mealy.run call (init routerIp routerName) seen).routerIp = routerIp := by
  have hframe (e : AlertEngine) (c : EngineCall) :
      ((e.call c).1.routerName, (e.call c).1.routerIp) = (e.routerName, e.routerIp) := by
    cases c <;> rfl
  exact Prod.mk.inj (Mealy.run_frame call (fun e ↦ (e.routerName, e.routerIp)) hframe
    (init routerIp routerName) seen)

/-- A status other than that of the last state is a change. -/
theorem changes_of_ne {seen : List EngineCall} (hseen : ∀ c ∈ seen, c.UpOrDown) {state : WANState}
    (hstatus : state.status ≠ .unknown)
    (h : state.status ≠ ((lastSeen state.interface seen).map WANState.status).getD .up) :
    Changes (lastSeen state.interface seen) state := by
  refine ⟨hstatus, ?_⟩
  intro previous hprevious
  refine ⟨?_, lastSeen_ne_unknown hseen hprevious⟩
  intro heq
  rw [hprevious] at h
  exact h heq.symm

/-- What the alert of a call shows is one line each. -/
def Readable : EngineCall → Prop
  | .wanState now state allStates => OneLine state.interface ∧
      (∀ name ∈ failoverTarget state allStates, OneLine name) ∧ InCalendar now
  | .syslogEvent _ _ => True

/-- The texts of one call tell the change that it sees. -/
theorem read_call (hname : OneLine routerName) (hip : OneLine routerIp)
    (hseen : ∀ c ∈ seen, c.UpOrDown) {c : EngineCall} (hc : c.UpOrDown) (hreadable : Readable c) :
    (if c.observation?.isSome then
      ((Mealy.run call (init routerIp routerName) seen).call c).2 else []).filterMap
        (readWanAlert? ∘ alertText) = (change? seen c).toList := by
  cases c with
  | syslogEvent now event => rfl
  | wanState now state allStates =>
      obtain ⟨hinterface, htarget, hnow⟩ := hreadable
      have hstatus : state.status ≠ .unknown := hc _ rfl
      have hlevel := level_lastSeen routerIp routerName hseen state.interface
      have hprevious := previousWan_run routerIp routerName seen state.interface
      obtain ⟨hengineName, hengineIp⟩ := router_run routerIp routerName seen
      generalize Mealy.run call (init routerIp routerName) seen = engine at *
      change (engine.processWanState now state allStates).2.filterMap _ = _
      rw [engine.processWanState_alerts now allStates hstatus, hlevel, change?]
      by_cases hsame : state.status =
          ((lastSeen state.interface seen).map WANState.status).getD .up
      · rw [if_pos hsame]
        simp only [if_pos hsame]
        rfl
      · have hchange := changes_of_ne hseen hstatus hsame
        rw [← hprevious] at hchange
        have hprintable : Printable engine now state allStates :=
          ⟨hengineName ▸ hname, hengineIp ▸ hip, hinterface, htarget, hnow⟩
        have hread := readWanAlert?_changeAlert hprintable hchange
        rw [if_neg hsame]
        simp only [if_neg hsame, List.filterMap_cons, List.filterMap_nil, Function.comp_apply,
          hread, hprevious]
        rfl

theorem read_allWanAlerts (hname : OneLine routerName) (hip : OneLine routerIp)
    (hseen : ∀ c ∈ seen, c.UpOrDown) (hcalls : ∀ c ∈ calls, c.UpOrDown)
    (hreadable : ∀ c ∈ calls, Readable c) :
    (allWanAlerts (Mealy.run call (init routerIp routerName) seen) calls).filterMap
      (readWanAlert? ∘ alertText) = changesFrom seen calls := by
  induction calls generalizing seen with
  | nil => rfl
  | cons c calls ih =>
      have hc := hcalls c List.mem_cons_self
      have hnext : ∀ d ∈ seen ++ [c], d.UpOrDown := by
        simpa only [List.forall_mem_append, List.forall_mem_singleton] using And.intro hseen hc
      have hrest := ih hnext (fun d hd ↦ hcalls d (List.mem_cons_of_mem _ hd))
        fun d hd ↦ hreadable d (List.mem_cons_of_mem _ hd)
      rw [Mealy.run_append, Mealy.run_cons, Mealy.run_nil] at hrest
      rw [allWanAlerts, List.filterMap_append, changesFrom, hrest,
        read_call hname hip hseen hc (hreadable c List.mem_cons_self)]

end AlertEngine

/-! ## The calls of a run -/

theorem mem_keys_of_failoverTarget {state : WANState} {allStates : Dict String WANState}
    {name : String} (h : failoverTarget state (some allStates) = some name) :
    name ∈ allStates.keys := by
  obtain ⟨p, hp, rfl⟩ := Option.map_eq_some_iff.mp h
  exact List.mem_map_of_mem (List.mem_of_find?_eq_some hp)

/-- The reading at which the poll loop processes a state. -/
def MonitorEvent.processTime? : MonitorEvent → Option ℤ
  | .process now => some now
  | _ => none

namespace LocalMonitor

variable {names : List String} {m t : LocalMonitor} {e : MonitorEvent} {es : List MonitorEvent}
  {o out : List MonitorOutput}

/-- The poll that is being processed shows the configured WANs. -/
structure ShowsWans (names : List String) (m : LocalMonitor) : Prop where
  gateways : m.poller.wanGateways.keys = names
  current : ∀ allStates ∈ m.currentPoll, allStates.keys = names

theorem ShowsWans.step (h : ShowsWans names m) (htrans : Transition m e t o) :
    ShowsWans names t := by
  cases htrans with
  | startPoll hpos => exact ⟨h.gateways, by simp [LocalMonitor.currentPoll]⟩
  | polled input interval hpos =>
      refine ⟨h.gateways, ?_⟩
      rintro _ ⟨⟩
      exact (Dict.keys_mapItems _ _).trans h.gateways
  | @process now interval allStates state remaining hpos =>
      refine ⟨by rw [deliver_poller]; exact h.gateways, ?_⟩
      rw [currentPoll_deliver]
      rintro _ ⟨⟩
      exact h.current allStates (by rw [LocalMonitor.currentPoll, hpos]; rfl)
  | finish hpos => exact ⟨h.gateways, by simp [LocalMonitor.currentPoll]⟩
  | @sendReturned reply ok interval allStates remaining alert later hpos hresult =>
      refine ⟨by rw [deliver_poller]; exact h.gateways, ?_⟩
      rw [currentPoll_deliver]
      rintro _ ⟨⟩
      exact h.current allStates (by rw [LocalMonitor.currentPoll, hpos]; rfl)
  | sendRaised reply hpos hresult => exact ⟨h.gateways, by simp [LocalMonitor.currentPoll]⟩
  | heartbeat now hsuspended => exact h
  | syslog now event hsuspended => exact ⟨h.gateways, h.current⟩

variable {config : LocalConfig} {telegram : TelegramNotifier}

theorem showsWans_run (hrun : Machine.run step (init config telegram) es = some (m, out)) :
    ShowsWans config.router.wanGateways.keys m := by
  refine Machine.run_induction step (P := fun _ m _ ↦ ShowsWans config.router.wanGateways.keys m)
    ⟨rfl, by simp [LocalMonitor.currentPoll, init]⟩ ?_ es m out hrun
  intro es m out e t o _ ih hstep
  exact ih.step (transition_of_step hstep)

/-- The call is about the configured WANs, at one of the readings. -/
def Configured (names : List String) (times : List ℤ) : EngineCall → Prop
  | .wanState now state allStates => state.interface ∈ names ∧
      (∀ name, failoverTarget state allStates = some name → name ∈ names) ∧ now ∈ times
  | .syslogEvent _ _ => True

theorem configured_calls (hrun : Machine.run step (init config telegram) es = some (m, out)) :
    ∀ c ∈ Machine.translated step engineCalls (init config telegram) es,
      Configured config.router.wanGateways.keys (es.filterMap MonitorEvent.processTime?) c := by
  intro c hc
  obtain ⟨pre, e, post, m', o', rfl, hpre, hcall⟩ :=
    Machine.exists_step_of_mem_translated step engineCalls hrun hc
  have hshows := showsWans_run hpre
  have htells := tellsWans_run hpre
  cases e with
  | syslog now event =>
      obtain rfl := List.mem_singleton.mp hcall
      trivial
  | process now =>
      cases hpos : m'.position with
      | processing interval allStates states =>
          cases states with
          | nil => simp [engineCalls, hpos] at hcall
          | cons state remaining =>
              simp only [engineCalls, hpos, List.mem_singleton] at hcall
              subst hcall
              have hstate : state ∈ m'.unprocessed := by
                rw [LocalMonitor.unprocessed, hpos]
                exact List.mem_cons_self
              have hkeys := hshows.current allStates (by rw [LocalMonitor.currentPoll, hpos]; rfl)
              refine ⟨htells.unprocessed state hstate, ?_, by simp [MonitorEvent.processTime?]⟩
              intro name hname
              exact hkeys ▸ mem_keys_of_failoverTarget hname
      | _ => simp [engineCalls, hpos] at hcall
  | _ => exact (List.not_mem_nil hcall).elim

theorem readable_calls (hnames : ∀ name ∈ config.router.wanGateways.keys, OneLine name)
    (hclock : ∀ now ∈ es.filterMap MonitorEvent.processTime?, InCalendar now)
    (hrun : Machine.run step (init config telegram) es = some (m, out)) :
    ∀ c ∈ Machine.translated step engineCalls (init config telegram) es, Readable c := by
  intro c hc
  have hconfigured := configured_calls hrun c hc
  cases c with
  | syslogEvent now event => trivial
  | wanState now state allStates =>
      obtain ⟨hinterface, htarget, hnow⟩ := hconfigured
      exact ⟨hnames _ hinterface, fun name hname ↦ hnames name (htarget name hname),
        hclock now hnow⟩

/-- The states that a heartbeat reports are those of configured WANs. -/
theorem keys_heartbeatPayload (hrun : Machine.run step (init config telegram) es = some (m, out))
    (now : ℤ) : (m.heartbeatPayload now).wanStates.keys ⊆ config.router.wanGateways.keys := by
  intro name hname
  have hreports : (m.heartbeatPayload now).wanStates = (Mealy.run call
      (AlertEngine.init config.router.host config.router.name)
      (Machine.translated step engineCalls (init config telegram) es)).previousWan :=
    congrArg AlertEngine.previousWan (engine_run hrun)
  rw [hreports] at hname
  obtain ⟨state, hstate⟩ := Dict.exists_get?_of_mem_keys hname
  rw [previousWan_run] at hstate
  obtain ⟨c, hc, heq⟩ := List.mem_filterMap.mp (List.mem_of_getLast? hstate)
  cases c with
  | syslogEvent time event => cases heq
  | wanState time seen allStates =>
      obtain ⟨rfl, -⟩ := Option.ite_none_right_eq_some.mp heq
      exact (configured_calls hrun _ hc).1

end LocalMonitor

/-! ## The record -/

namespace ListeningMonitor

variable {u : UnicodeData} {config : LocalConfig} {telegram : TelegramNotifier}
  {es : List IntakeEvent} {t : ListeningMonitor} {out : List IntakeOutput}

/-- The states that the poll loop processes in a run, in order. -/
def processedStates (u : UnicodeData) (config : LocalConfig) (telegram : TelegramNotifier)
    (es : List IntakeEvent) : List EngineCall :=
  Machine.translated LocalMonitor.step LocalMonitor.engineCalls (LocalMonitor.init config telegram)
    (es.flatMap (monitorEvents u))

/-- No text about a datagram is read as a change. -/
theorem readWanAlert?_of_dispatched
    (hrun : Machine.run (step u) (init config telegram) es = some (t, out)) {alert : AlertEvent}
    (halert : alert ∈ dispatched out) : readWanAlert? (alertText alert) = none := by
  rw [dispatched_run hrun] at halert
  obtain ⟨a, -, halert⟩ := List.mem_flatMap.mp halert
  apply Option.eq_none_iff_forall_ne_some.mpr
  intro report hreport
  obtain ⟨hname, hannounced⟩ := announced?_of_readWanAlert? hreport
  exact hannounced (announced?_of_mem_alertsOf halert hname)

/-- Whatever datagrams arrive and whatever the sends do: reading the texts handed to `send_alert`
one by one gives the changes that the processed states show, no more, no fewer and in this order,
each with its second, the time that the previous status lasted, the failover target and the link. -/
theorem handed_texts_record_changes (u : UnicodeData) (config : LocalConfig)
    (telegram : TelegramNotifier)
    (hnames : ∀ name ∈ config.router.wanGateways.keys, OneLine name)
    (hrouter : OneLine config.router.name) (hhost : OneLine config.router.host)
    {es : List IntakeEvent} {t : ListeningMonitor} {out : List IntakeOutput}
    (hclock : ∀ now ∈ (es.flatMap (monitorEvents u)).filterMap MonitorEvent.processTime?,
      InCalendar now)
    (hrun : Machine.run (step u) (init config telegram) es = some (t, out)) :
    (t.handedTexts out).filterMap readWanAlert? =
      changes (processedStates u config telegram es) := by
  have hmonitor := (monitor_run hrun).1
  have hhands := LocalMonitor.handsOverAlerts_run config telegram hmonitor
  have hquiet : ∀ alert ∈
      (out.filterMap IntakeOutput.monitor?).filterMap MonitorOutput.dispatched?,
        (readWanAlert? ∘ alertText) alert = none :=
    fun alert halert ↦ readWanAlert?_of_dispatched hrun halert
  have hnone : ∀ c ∈ ([] : List EngineCall), c.UpOrDown := by simp
  have hread := read_allWanAlerts hrouter hhost hnone hhands.upOrDown
    (LocalMonitor.readable_calls hnames hclock hmonitor)
  rw [Mealy.run_nil, ← hhands.handed] at hread
  rw [handedTexts, List.filterMap_map, List.filterMap_append, filterMap_told _ hquiet,
    ← List.filterMap_append]
  exact hread

/-- The text about the datagram that names WAN1 is no record. -/
theorem misleadingIntake_recorded :
    ∃ t out, Machine.run (step .ascii) (init { router := dualWan } {}) misleadingIntake =
        some (t, out) ∧
      (t.handedTexts out).filterMap readWanAlert? =
        [⟨"WAN2", .down, 0, none, some "WAN1", none⟩] := by
  obtain ⟨⟨t, out⟩, hrun⟩ : ∃ p, Machine.run (step .ascii) (init { router := dualWan } {})
      misleadingIntake = some p := by
    apply Option.isSome_iff_exists.mp
    decide
  have hrecords := handed_texts_record_changes .ascii { router := dualWan } {} (by decide)
    (by decide) (by decide) (by decide) hrun
  have hchanges : changes (processedStates .ascii { router := dualWan } {} misleadingIntake) =
      [⟨"WAN2", .down, 0, none, some "WAN1", none⟩] := by decide
  exact ⟨t, out, hrun, hrecords.trans hchanges⟩

end ListeningMonitor

end WanRouter
