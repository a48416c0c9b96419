import WanRouter.Lib.Simulation
import WanRouter.Local.Iterations

/-!
# The monitor without its syslog messages

The syslog callback shares the engine, the list of recent events and Telegram with
the loops.  It writes to the list only, which nothing but the heartbeats reads; so
leaving the syslog messages out of a run changes nothing else.
-/

namespace WanRouter

open OrderedDict

def MonitorEvent.isSyslog : MonitorEvent → Bool
  | .syslog _ _ => true
  | _ => false

def MonitorEvent.syslog? : MonitorEvent → Option (ℤ × SyslogEvent)
  | .syslog now event => some (now, event)
  | _ => none

/-- What an output shows apart from the alerts of syslog messages. -/
def MonitorOutput.ofLoops? : MonitorOutput → Option MonitorOutput
  | .heartbeat payload => some (.heartbeat { payload with recentEvents := [] })
  | .dispatched _ => none
  | output => some output

def MonitorOutput.dispatched? : MonitorOutput → Option AlertEvent
  | .dispatched alert => some alert
  | _ => none

namespace LocalMonitor

/-- The monitors differ in their recent events at most. -/
def AgreeOffEvents (m m' : LocalMonitor) : Prop :=
  ∃ events, m' = { m with recentEvents := events }

theorem AgreeOffEvents.refl (m : LocalMonitor) : AgreeOffEvents m m := ⟨m.recentEvents, rfl⟩

variable {m m' t : LocalMonitor} {e : MonitorEvent} {o : List MonitorOutput}

theorem AgreeOffEvents.deliver (h : AgreeOffEvents m m') (interval : ℤ)
    (allStates : Dict String WANState) (remaining : List WANState) (alerts : List AlertEvent) :
    AgreeOffEvents (m.deliver interval allStates remaining alerts)
      (m'.deliver interval allStates remaining alerts) := by
  obtain ⟨events, rfl⟩ := h
  cases alerts with
  | nil => exact ⟨events, rfl⟩
  | cons alert later => exact ⟨events ++ [alert], rfl⟩

theorem ofLoops_dispatched (alerts : List AlertEvent) :
    (alerts.map MonitorOutput.dispatched).filterMap MonitorOutput.ofLoops? = [] := by
  simp [MonitorOutput.ofLoops?]

/-- A syslog message is not noticed by the loops. -/
theorem AgreeOffEvents.hidden (hsyslog : e.isSyslog = true) (h : AgreeOffEvents m m')
    (hstep : step m e = some (t, o)) :
    AgreeOffEvents t m' ∧ o.filterMap MonitorOutput.ofLoops? = [] := by
  obtain ⟨events, rfl⟩ := h
  cases transition_of_step hstep with
  | syslog now event hsuspended => exact ⟨⟨events, rfl⟩, ofLoops_dispatched _⟩
  | _ => cases hsyslog

/-- Any other step is enabled in both monitors and shows the same. -/
theorem AgreeOffEvents.visible (hsyslog : e.isSyslog = false) (h : AgreeOffEvents m m')
    (hstep : step m e = some (t, o)) :
    ∃ t' o', step m' e = some (t', o') ∧ AgreeOffEvents t t' ∧
      o.filterMap MonitorOutput.ofLoops? = o'.filterMap MonitorOutput.ofLoops? := by
  have hagree := h
  obtain ⟨events, rfl⟩ := h
  cases transition_of_step hstep with
  | startPoll hpos =>
      refine ⟨_, _, ?_, ⟨events, rfl⟩, rfl⟩
      simp only [step, hpos]
      rfl
  | polled input interval hpos =>
      refine ⟨_, _, ?_, ⟨events, rfl⟩, rfl⟩
      simp only [step, hpos]
      rfl
  | @process now interval allStates state remaining hpos =>
      have hengine : AgreeOffEvents
          { m with alertEngine := (m.alertEngine.processWanState now state (some allStates)).1 }
          { m with
            alertEngine := (m.alertEngine.processWanState now state (some allStates)).1
            recentEvents := events } := ⟨events, rfl⟩
      refine ⟨_, _, ?_, hengine.deliver interval allStates remaining
        (m.alertEngine.processWanState now state (some allStates)).2, rfl⟩
      simp only [step, hpos]
  | finish hpos =>
      refine ⟨_, _, ?_, ⟨lastItems 100 events, rfl⟩, rfl⟩
      simp only [step, hpos]
  | @sendReturned reply ok interval allStates remaining alert later hpos hresult =>
      refine ⟨_, _, ?_, hagree.deliver interval allStates remaining later, rfl⟩
      simp only [step, hpos, hresult]
  | sendRaised reply hpos hresult =>
      refine ⟨_, _, ?_, ⟨events, rfl⟩, rfl⟩
      simp only [step, hpos, hresult]
  | heartbeat now hsuspended =>
      refine ⟨_, _, if_pos hsuspended, ⟨events, rfl⟩, rfl⟩
  | syslog now event hsuspended => cases hsyslog

/-! ## The alerts of the messages -/

theorem Transition.routerLines_eq (h : Transition m e t o) (now : ℤ) :
    t.alertEngine.routerLines now = m.alertEngine.routerLines now := by
  cases h with
  | process now' hpos => rw [deliver_alertEngine]; rfl
  | sendReturned reply ok hpos hresult => rw [deliver_alertEngine]
  | _ => rfl

/-- The engine reads the name and the address of the router for a syslog message, and
nothing that the calls change. -/
theorem processSyslogEvent_congr {engine engine' : AlertEngine}
    (h : ∀ now, engine.routerLines now = engine'.routerLines now) (now : ℤ)
    (event : SyslogEvent) :
    engine.processSyslogEvent now event = engine'.processSyslogEvent now event := by
  simp only [AlertEngine.processSyslogEvent, AlertEngine.processWanSyslog,
    AlertEngine.wanSyslogAlert, h now]

theorem Transition.dispatched (h : Transition m e t o) :
    o.filterMap MonitorOutput.dispatched? =
      e.syslog?.toList.flatMap fun p ↦ m.alertEngine.processSyslogEvent p.1 p.2 := by
  cases h with
  | syslog now event hsuspended =>
      simp [MonitorEvent.syslog?, List.filterMap_map, Function.comp_def,
        MonitorOutput.dispatched?]
  | _ => rfl

theorem dispatched_run {es : List MonitorEvent} {out : List MonitorOutput}
    (hrun : Machine.run step m es = some (t, out)) :
    (∀ now, t.alertEngine.routerLines now = m.alertEngine.routerLines now) ∧
      out.filterMap MonitorOutput.dispatched? =
        (es.filterMap MonitorEvent.syslog?).flatMap fun p ↦
          m.alertEngine.processSyslogEvent p.1 p.2 := by
  refine Machine.run_induction step
    (P := fun es t out ↦
      (∀ now, t.alertEngine.routerLines now = m.alertEngine.routerLines now) ∧
        out.filterMap MonitorOutput.dispatched? =
          (es.filterMap MonitorEvent.syslog?).flatMap fun p ↦
            m.alertEngine.processSyslogEvent p.1 p.2)
    ⟨fun _ ↦ rfl, rfl⟩ ?_ es t out hrun
  rintro es t out e t' o - ⟨hlines, hdispatched⟩ hstep
  have htransition := transition_of_step hstep
  refine ⟨fun now ↦ (htransition.routerLines_eq now).trans (hlines now), ?_⟩
  have hlast : o.filterMap MonitorOutput.dispatched? =
      ([e].filterMap MonitorEvent.syslog?).flatMap fun p ↦
        m.alertEngine.processSyslogEvent p.1 p.2 := by
    rw [htransition.dispatched]
    cases hsyslog : e.syslog? with
    | none => simp [hsyslog]
    | some p => simp [hsyslog, processSyslogEvent_congr hlines]
  rw [List.filterMap_append, List.filterMap_append, List.flatMap_append, hdispatched, hlast]

/-- Left without its syslog messages, a run of the monitor polls, alerts, sleeps and reports
the same states, and the alerts of the messages depend on the messages only. -/
theorem syslog_erasure (config : LocalConfig) (telegram : TelegramNotifier)
    {es : List MonitorEvent} {m : LocalMonitor} {out : List MonitorOutput}
    (hrun : Machine.run step (init config telegram) es = some (m, out)) :
    (∃ m' out', Machine.run step (init config telegram)
        (es.filter fun e ↦ !e.isSyslog) = some (m', out') ∧ AgreeOffEvents m m' ∧
        out.filterMap MonitorOutput.ofLoops? = out'.filterMap MonitorOutput.ofLoops?) ∧
      out.filterMap MonitorOutput.dispatched? =
        (es.filterMap MonitorEvent.syslog?).flatMap fun p ↦
          (init config telegram).alertEngine.processSyslogEvent p.1 p.2 := by
  refine ⟨?_, (dispatched_run hrun).2⟩
  exact Machine.run_erase (fun _ _ _ _ _ ↦ AgreeOffEvents.hidden)
    (fun _ _ _ _ _ ↦ AgreeOffEvents.visible) (AgreeOffEvents.refl _) hrun

/-- An iteration with a failover message while it polls and another while it sends. -/
def interruptedIteration : List MonitorEvent :=
  let failover : SyslogEvent :=
    { timestamp := 0, facility := "", severity := "", hostname := "", message := ""
      category := "wan"
      metadata :=
        Dict.ofList [("wan_event_type", "failover_activated"), ("wan_interface", "WAN2")] }
  [.startPoll, .syslog 0 failover, .polled (Round.answering "10.0.0.1").input, .process 0,
    .process 0, .syslog 0 failover, .sendDone .delivered, .finish]

theorem interruptedIteration_erasure :
    ∃ m out m' out',
      Machine.run step (init { router := dualWan } {})
        interruptedIteration = some (m, out) ∧
      Machine.run step (init { router := dualWan } {})
        [.startPoll, .polled (Round.answering "10.0.0.1").input, .process 0, .process 0,
          .sendDone .delivered, .finish] = some (m', out') ∧
      AgreeOffEvents m m' ∧
      out.filterMap MonitorOutput.ofLoops? = out'.filterMap MonitorOutput.ofLoops? := by
  obtain ⟨m, out, hrun⟩ : ∃ m out,
      Machine.run step (init { router := dualWan } {})
        interruptedIteration = some (m, out) := ⟨_, _, rfl⟩
  obtain ⟨⟨m', out', hrun', hagree, hsame⟩, -⟩ := syslog_erasure _ _ hrun
  exact ⟨m, out, m', out', hrun, hrun', hagree, hsame⟩

end LocalMonitor

end WanRouter
