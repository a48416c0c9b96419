import WanRouter.Lib.Simulation
import WanRouter.Local.RecentEvents
import WanRouter.Local.StandIn

/-!
# Dry runs

The monitor with `--mock-snmp`: it polls the mock poller, whose active WAN and links
can be set between the steps.  For the maps for which the mock stands in for the real
poller, a dry run shows what the monitor would show at a router that answers like the
mock.
-/

namespace WanRouter

open OrderedDict MockSNMPPoller

def MonitorEvent.isPolled : MonitorEvent → Bool
  | .polled _ => true
  | _ => false

def MockSNMPPoller.Call.isPoll : Call → Bool
  | .poll _ => true
  | _ => false

/-- A `LocalMonitor` that polls the mock; the poller in the record is not polled. -/
structure DryMonitor where
  mock : MockSNMPPoller
  monitor : LocalMonitor

inductive DryEvent where
  | task (event : {event : MonitorEvent // event.isPolled = false})
  /-- The mock is polled and answers at once. -/
  | polled (now : ℤ)
  | control (call : {call : Call // call.isPoll = false})

namespace DryMonitor

def init (config : LocalConfig) (telegram : TelegramNotifier) : DryMonitor where
  mock := MockSNMPPoller.init (some config.router.wanGateways) (some config.router.wanInterfaces)
  monitor := LocalMonitor.init config telegram

def step (self : DryMonitor) : DryEvent → Option (DryMonitor × List MonitorOutput)
  | .task event =>
      (self.monitor.step event).map fun p ↦ ({ self with monitor := p.1 }, p.2)
  | .polled now =>
      (self.monitor.taskTransition (.answered (self.mock.poll now).2)).map fun p ↦
        ({ mock := (self.mock.poll now).1, monitor := p.1 }, p.2)
  | .control call => some ({ self with mock := (self.mock.call call).1 }, [])

/-- The step of the monitor whose router answers like the mock. -/
def translate (self : DryMonitor) : DryEvent → List MonitorEvent
  | .task event => [event]
  | .polled now => [.polled (self.mock.routerInput now)]
  | .control _ => []

/-! ## The simulation -/

/-- The monitors differ in their pollers only, and these remember the same. -/
structure Agrees (gateways : Dict String String) (interfaces : Dict String ℤ) (d : DryMonitor)
    (m : LocalMonitor) : Prop where
  monitor : m = { d.monitor with poller := m.poller }
  matched : Matched gateways interfaces (d.mock, m.poller)

variable {gateways : Dict String String} {interfaces : Dict String ℤ} {d d' : DryMonitor}
  {m t : LocalMonitor} {e : MonitorEvent} {o : List MonitorOutput}

theorem deliver_setPoller (m : LocalMonitor) (poller : SNMPPoller) (interval : ℤ)
    (allStates : Dict String WANState) (remaining : List WANState) (alerts : List AlertEvent) :
    LocalMonitor.deliver { m with poller := poller } interval allStates remaining alerts =
      { m.deliver interval allStates remaining alerts with poller := poller } := by
  cases alerts <;> rfl

/-- Only the answer of a poll depends on the poller. -/
theorem step_setPoller (poller : SNMPPoller) (hpolled : e.isPolled = false)
    (h : m.step e = some (t, o)) :
    LocalMonitor.step { m with poller := poller } e = some ({ t with poller := poller }, o) := by
  cases LocalMonitor.transition_of_step h with
  | polled input interval hpos => cases hpolled
  | startPoll hpos =>
      simp only [LocalMonitor.step, hpos]
      rfl
  | process now hpos => simp only [LocalMonitor.step, hpos, ← deliver_setPoller]
  | finish hpos => simp only [LocalMonitor.step, hpos]
  | sendReturned reply ok hpos hresult =>
      simp only [LocalMonitor.step, hpos, hresult, ← deliver_setPoller]
  | sendRaised reply hpos hresult => simp only [LocalMonitor.step, hpos, hresult]
  | heartbeat now hsuspended => exact if_pos hsuspended
  | syslog now event hsuspended => exact if_pos hsuspended

theorem matched_of_call {mock : MockSNMPPoller} {poller : SNMPPoller} {c : Call}
    (h : Matched gateways interfaces (mock, poller)) (hdistinct : gateways.values.Nodup)
    (hstands : StandsIn gateways interfaces) (hcall : c.isPoll = false) :
    Matched gateways interfaces ((mock.call c).1, poller) := by
  have hcalled := h.call hdistinct hstands c
  cases c with
  | poll now => cases hcall
  | _ => exact hcalled

theorem Agrees.step (h : Agrees gateways interfaces d m) (hdistinct : gateways.values.Nodup)
    (hstands : StandsIn gateways interfaces) {event : DryEvent}
    (hstep : d.step event = some (d', o)) :
    ∃ m', Machine.run LocalMonitor.step m (d.translate event) = some (m', o) ∧
      Agrees gateways interfaces d' m' := by
  obtain ⟨poller, rfl⟩ : ∃ poller, m = { d.monitor with poller := poller } := ⟨_, h.monitor⟩
  have hmatched : Matched gateways interfaces (d.mock, poller) := h.matched
  cases event with
  | task event =>
      obtain ⟨⟨t, o'⟩, htask, heq⟩ := Option.map_eq_some_iff.mp hstep
      cases heq
      refine ⟨{ t with poller := poller }, ?_, rfl, hmatched⟩
      rw [translate, Machine.run_singleton]
      exact step_setPoller poller event.2 htask
  | polled now =>
      obtain ⟨⟨t, o'⟩, hanswered, heq⟩ := Option.map_eq_some_iff.mp hstep
      cases heq
      have hstates := hmatched.poll_eq hdistinct hstands now
      cases hpos : d.monitor.position with
      | polling interval =>
          simp only [LocalMonitor.taskTransition, hpos] at hanswered
          cases hanswered
          refine ⟨{ d.monitor with
            poller := (poller.poll (d.mock.routerInput now)).1
            position := .processing interval (d.mock.poll now).2 (d.mock.poll now).2.values },
            ?_, rfl, hmatched.call hdistinct hstands (.poll now)⟩
          rw [translate, Machine.run_singleton]
          simp only [LocalMonitor.step, hpos, ← hstates]
      | _ => simp [LocalMonitor.taskTransition, hpos] at hanswered
  | control call =>
      cases hstep
      exact ⟨_, Machine.run_nil _ _, rfl, matched_of_call hmatched hdistinct hstands call.2⟩

theorem agrees_init (config : LocalConfig) (telegram : TelegramNotifier)
    (hne : config.router.wanGateways.items ≠ [])
    (hstands : StandsIn config.router.wanGateways config.router.wanInterfaces) :
    Agrees config.router.wanGateways config.router.wanInterfaces (init config telegram)
      (LocalMonitor.init config telegram) := by
  refine ⟨rfl, wanGateways_init hne, rfl, rfl, rfl, rfl, hstands.default_mem⟩

/-- A dry run shows what a run of the monitor shows at a router whose answers are those of the
mock, and both end in the same state but for the poller. -/
theorem dry_run_refines (config : LocalConfig) (telegram : TelegramNotifier)
    (hne : config.router.wanGateways.items ≠ [])
    (hdistinct : config.router.wanGateways.values.Nodup)
    (hstands : StandsIn config.router.wanGateways config.router.wanInterfaces)
    {es : List DryEvent} {out : List MonitorOutput}
    (hrun : Machine.run step (init config telegram) es = some (d, out)) :
    ∃ m, Machine.run LocalMonitor.step (LocalMonitor.init config telegram)
        (Machine.translated step translate (init config telegram) es) = some (m, out) ∧
      m = { d.monitor with poller := m.poller } ∧ m.poller.lastStates = d.mock.lastStates := by
  have hsimulated : ∃ m out', Machine.run LocalMonitor.step (LocalMonitor.init config telegram)
        (Machine.translated step translate (init config telegram) es) = some (m, out') ∧
      Agrees config.router.wanGateways config.router.wanInterfaces d m ∧
      out.filterMap some = out'.filterMap some := by
    apply Machine.run_simulation _ (agrees_init config telegram hne hstands) hrun
    intro d m event d' o h hstep
    obtain ⟨m', hanswer, hkept⟩ := h.step hdistinct hstands hstep
    exact ⟨m', o, hanswer, hkept, rfl⟩
  obtain ⟨m, out', hrun', hagrees, hsame⟩ := hsimulated
  rw [List.filterMap_some, List.filterMap_some] at hsame
  exact ⟨m, hsame ▸ hrun', hagrees.monitor, hagrees.matched.lastStates.symm⟩

/-- A poll, a failover of the mock, and a poll that notices it. -/
def mockFailover : List DryEvent :=
  [.task ⟨.startPoll, rfl⟩, .polled 0, .task ⟨.process 0, rfl⟩, .task ⟨.process 0, rfl⟩,
    .task ⟨.sendDone .delivered, rfl⟩, .task ⟨.finish, rfl⟩,
    .control ⟨.setActiveWan "WAN2", rfl⟩, .task ⟨.startPoll, rfl⟩, .polled 60000000,
    .task ⟨.process 60000000, rfl⟩]

theorem mockFailover_refines :
    ∃ d out m, Machine.run step (init { router := dualWan } {}) mockFailover = some (d, out) ∧
      Machine.run LocalMonitor.step (LocalMonitor.init { router := dualWan } {})
        (Machine.translated step translate (init { router := dualWan } {}) mockFailover) =
          some (m, out) ∧
      m.poller.lastStates = d.mock.lastStates := by
  obtain ⟨d, out, hrun⟩ : ∃ d out,
      Machine.run step (init { router := dualWan } {}) mockFailover = some (d, out) :=
    ⟨_, _, rfl⟩
  have hstands : StandsIn dualWan.wanGateways dualWan.wanInterfaces :=
    ⟨by decide, by decide, Or.inl rfl⟩
  obtain ⟨m, hrefines, -, hstates⟩ :=
    dry_run_refines { router := dualWan } {} (by decide) (by decide) hstands hrun
  exact ⟨d, out, m, hrun, hrefines, hstates⟩

end DryMonitor

end WanRouter
