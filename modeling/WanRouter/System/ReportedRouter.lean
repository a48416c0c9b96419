import WanRouter.Local.HandedRecord
import WanRouter.Remote.LostText
import WanRouter.System.WatchedRouter

/-!
# The texts of the two programs

The local monitor with its syslog receiver, the network and the sentinel.  Both programs
hand texts to `send_alert`; what the text of a LOST alert shows about a WAN is what the
texts of the monitor announced last, delivered or not, up to the heartbeat that the
sentinel heard last.
-/

namespace WanRouter

open OrderedDict RemoteAlertEngine TelegramNotifier Relay

abbrev ReportedRouter := Relay.State ListeningMonitor RemoteSentinel HeartbeatPayload

def IntakeOutput.heartbeat? (output : IntakeOutput) : Option HeartbeatPayload :=
  output.monitor?.bind MonitorOutput.heartbeat?

namespace ListeningMonitor

variable {u : UnicodeData} {l l' : ListeningMonitor} {e : IntakeEvent} {o : List IntakeOutput}

theorem filterMap_heartbeat? (o : List IntakeOutput) :
    o.filterMap IntakeOutput.heartbeat? =
      (o.filterMap IntakeOutput.monitor?).filterMap MonitorOutput.heartbeat? :=
  List.filterMap_filterMap.symm

/-- A heartbeat is put out by the step that builds it. -/
theorem heartbeat_of_step (hcallbacks : l.receiver.callbacks = [.onSyslogEvent])
    (hstep : l.step u e = some (l', o)) {payload : HeartbeatPayload}
    (h : payload ∈ o.filterMap IntakeOutput.heartbeat?) :
    ∃ built, monitorEvents u e = [.heartbeat built] ∧
      payload = l.monitor.heartbeatPayload built := by
  obtain ⟨hmonitor, -⟩ := monitor_step hcallbacks hstep
  rw [filterMap_heartbeat?] at h
  generalize o.filterMap IntakeOutput.monitor? = outputs at hmonitor h
  cases e with
  | loops event =>
      rw [monitorEvents, Machine.run_singleton] at hmonitor
      obtain ⟨built, hevent, hpayload⟩ := LocalMonitor.heartbeat_of_step hmonitor h
      exact ⟨built, congrArg (fun e ↦ [e]) hevent, hpayload⟩
  | arrived a =>
      obtain ⟨output, houtput, hheartbeat⟩ := List.mem_filterMap.mp h
      obtain ⟨pre, e, post, m, o, m', o', hsplit, -, hlast, hin⟩ :=
        Machine.exists_step_of_mem_run _ hmonitor houtput
      obtain ⟨now, rfl, -⟩ := LocalMonitor.heartbeat_of_step hlast
        (List.mem_filterMap.mpr ⟨output, hin, hheartbeat⟩)
      have hmem : MonitorEvent.heartbeat now ∈ monitorEvents u (.arrived a) := by
        rw [hsplit]
        simp
      obtain ⟨event, -, heq⟩ := List.mem_map.mp hmem
      cases heq
  | status =>
      have hnone : [] = outputs := congrArg Prod.snd (Option.some.inj hmonitor)
      rw [← hnone] at h
      exact (List.not_mem_nil h).elim

end ListeningMonitor

namespace ReportedRouter

open ListeningMonitor (monitorEvents)

abbrev SystemEvent := Relay.Event IntakeEvent SentinelEvent ℤ

abbrev SystemOutput := Relay.Output IntakeOutput AlertEvent

def parties (u : UnicodeData) : Parties ListeningMonitor RemoteSentinel IntakeEvent SentinelEvent
    IntakeOutput AlertEvent HeartbeatPayload ℤ where
  sender := ListeningMonitor.step u
  receiver := RemoteSentinel.step
  message? := IntakeOutput.heartbeat?
  arrival := .record
  isOwn e := e.recorded?.isNone

def step (u : UnicodeData) :
    ReportedRouter → SystemEvent → Option (ReportedRouter × List SystemOutput) :=
  Relay.step (parties u)

def init (config : LocalConfig) (telegram : TelegramNotifier) (remote : RemoteHeartbeatConfig)
    (remoteTelegram : TelegramNotifier) : ReportedRouter where
  sender := ListeningMonitor.init config telegram
  receiver := RemoteSentinel.init remote remoteTelegram
  inFlight := []

def recorded (u : UnicodeData) (s : ReportedRouter) (es : List SystemEvent) :
    List (ℤ × HeartbeatPayload) :=
  RemoteSentinel.recorded (receiverEvents (parties u) s es)

/-- The texts that the monitor has handed to `send_alert` so far, with the one in flight. -/
def localTexts (s : ReportedRouter) (out : List SystemOutput) : List String :=
  s.sender.handedTexts (out.filterMap Output.sender?)

variable {u : UnicodeData} {config : LocalConfig} {telegram remoteTelegram : TelegramNotifier}
  {remote : RemoteHeartbeatConfig} {es : List SystemEvent} {s t : ReportedRouter}
  {out o : List SystemOutput}

theorem built_of_recorded
    (hrun : Machine.run (step u) (init config telegram remote remoteTelegram) es = some (s, out))
    {arrived : ℤ} {payload : HeartbeatPayload}
    (hrecorded : (arrived, payload) ∈ recorded u (init config telegram remote remoteTelegram) es) :
    ∃ pre e post m before built, es = pre ++ .sender e :: post ∧
      monitorEvents u e = [.heartbeat built] ∧
      Machine.run (step u) (init config telegram remote remoteTelegram) pre = some (m, before) ∧
      payload = m.sender.monitor.heartbeatPayload built := by
  obtain ⟨event, hevent, hpayload⟩ := List.mem_filterMap.mp hrecorded
  have hown : ∀ e : SentinelEvent, (parties u).isOwn e = true →
      e.recorded?.map Prod.snd = none := by
    intro e he
    rw [Option.isNone_iff_eq_none.mp he]
    rfl
  obtain ⟨pre, e, mid, i, x, post, m, before, m', o', rfl, -, hpre, hsender, hput⟩ :=
    sent_before_received (fun _ _ ↦ rfl) hown rfl hrun hevent (congrArg _ hpayload)
  obtain ⟨-, hcallbacks⟩ := ListeningMonitor.monitor_run (run_sender hpre)
  obtain ⟨built, hbuilds, heq⟩ := ListeningMonitor.heartbeat_of_step hcallbacks hsender hput
  exact ⟨pre, e, _, m, before, built, rfl, hbuilds, hpre, heq⟩

/-- In any run: the text of a LOST alert can be read, and it shows a WAN as DOWN exactly if the
last text about this WAN that the monitor handed to `send_alert`, up to the building of the
heartbeat that arrived last, announced DOWN; without an arrival it shows no WAN. -/
theorem lost_text_agrees_with_handed (u : UnicodeData) (config : LocalConfig)
    (telegram : TelegramNotifier) (remote : RemoteHeartbeatConfig)
    (remoteTelegram : TelegramNotifier) (hnames : Listable config.router.wanGateways.keys)
    {es : List SystemEvent} {s t : ReportedRouter} {out o : List SystemOutput}
    {result : ProbeResult} {now now' : ℤ}
    (hrun : Machine.run (step u) (init config telegram remote remoteTelegram) es = some (s, out))
    (hprobed : step u s (.receiver (.probed result now now')) = some (t, o)) :
    ∃ alert report, o = [.receiver alert] ∧ readLostAlert? (alertText alert) = some report ∧
      report.probe = result ∧
      ((recorded u (init config telegram remote remoteTelegram) es = [] ∧
          report.ago = totalSeconds (now' - now) ∧ report.wans = []) ∨
        ∃ pre e post m before built last,
          es = pre ++ .sender e :: post ∧ monitorEvents u e = [.heartbeat built] ∧
          Machine.run (step u) (init config telegram remote remoteTelegram) pre =
            some (m, before) ∧
          (recorded u (init config telegram remote remoteTelegram) es).getLast? =
            some (last, m.sender.monitor.heartbeatPayload built) ∧
          report.ago = totalSeconds (now' - last) ∧
          (∀ wan ∈ report.wans, wan.1 ∈ config.router.wanGateways.keys) ∧
          ∀ name ∈ config.router.wanGateways.keys, ((name, .down) ∈ report.wans ↔
            ((localTexts m before).filterMap (announced? name)).getLast? = some .down)) := by
  have ho : o = [.receiver (s.receiver.lostAlert result now now')] := by
    cases transition_of_step hprobed with
    | receiver e hown hreceiver => rw [RemoteSentinel.probed_step hreceiver, List.map_singleton]
  have halert := RemoteSentinel.lostAlert_run (run_receiver hrun) result now now'
  change s.receiver.lostAlert result now now' = createMonitorLostAlert now'
    (((recorded u (init config telegram remote remoteTelegram) es).getLast?.map Prod.fst).getD now)
    (((recorded u (init config telegram remote remoteTelegram) es).getLast?.map
      fun p ↦ p.2.wanStates).getD ∅) result at halert
  rw [halert] at ho
  cases hlast : (recorded u (init config telegram remote remoteTelegram) es).getLast? with
  | none =>
      rw [hlast] at ho
      have hempty : Listable (∅ : Dict String WANState).keys :=
        ⟨fun _ h ↦ (List.not_mem_nil h).elim, fun _ h ↦ (List.not_mem_nil h).elim⟩
      exact ⟨_, _, ho, readLostAlert?_createMonitorLostAlert hempty result, rfl,
        Or.inl ⟨List.getLast?_eq_none_iff.mp hlast, rfl, rfl⟩⟩
  | some p =>
      obtain ⟨last, payload⟩ := p
      obtain ⟨pre, e, post, m, before, built, hsplit, hbuilds, hpre, rfl⟩ :=
        built_of_recorded hrun (List.mem_of_getLast? hlast)
      have hlocal := run_sender hpre
      have hkeys := LocalMonitor.keys_heartbeatPayload (ListeningMonitor.monitor_run hlocal).1 built
      have hlistable : Listable (m.sender.monitor.heartbeatPayload built).wanStates.keys :=
        ⟨fun name h ↦ hnames.oneLine name (hkeys h), fun name h ↦ hnames.bar name (hkeys h)⟩
      rw [hlast] at ho
      refine ⟨_, _, ho, readLostAlert?_createMonitorLostAlert hlistable result, rfl,
        Or.inr ⟨pre, e, post, m, before, built, last, hsplit, hbuilds, hpre, rfl, rfl, ?_, ?_⟩⟩
      · exact fun wan hwan ↦ hkeys (mem_keys_of_mem_wanList hwan)
      · intro name hname
        have hdown := ListeningMonitor.down_iff_announced hnames.oneLine hlocal
          (hnames.oneLine name hname) built
        exact mem_wanList_iff.trans hdown

/-- The monitor reports WAN2 while its alert is being sent, and is then silent for three minutes. -/
def silencedIntake : List SystemEvent :=
  (ListeningMonitor.misleadingIntake ++ ListeningMonitor.ofLoops [.heartbeat 0]).map .sender ++
    [.deliver 0 0, .receiver (.evaluate 181000000 181000000 181000000)]

theorem silencedIntake_lost_text :
    ∃ s out t o alert report pre e post m before,
      Machine.run (step .ascii) (init { router := dualWan } {} {} {}) silencedIntake =
        some (s, out) ∧
      step .ascii s (.receiver (.probed .unreachable 182000000 182000000)) = some (t, o) ∧
      o = [.receiver alert] ∧ readLostAlert? (alertText alert) = some report ∧
      silencedIntake = pre ++ .sender e :: post ∧
      Machine.run (step .ascii) (init { router := dualWan } {} {} {}) pre = some (m, before) ∧
      (("WAN2", .down) ∈ report.wans ↔
        ((localTexts m before).filterMap (announced? "WAN2")).getLast? = some .down) := by
  obtain ⟨s, out, t, o, hrun, hprobed⟩ : ∃ s out t o,
      Machine.run (step .ascii) (init { router := dualWan } {} {} {}) silencedIntake =
          some (s, out) ∧
        step .ascii s (.receiver (.probed .unreachable 182000000 182000000)) = some (t, o) :=
    ⟨_, _, _, _, rfl, rfl⟩
  have hnames : Listable dualWan.wanGateways.keys := ⟨by decide, by decide⟩
  obtain ⟨alert, report, ho, hread, -, ⟨hnone, -⟩ |
      ⟨pre, e, post, m, before, built, last, hsplit, -, hpre, -, -, -, hdown⟩⟩ :=
    lost_text_agrees_with_handed .ascii { router := dualWan } {} {} {} hnames hrun hprobed
  · exact absurd hnone (List.cons_ne_nil _ _)
  · exact ⟨s, out, t, o, alert, report, pre, e, post, m, before, hrun, hprobed, ho, hread, hsplit,
      hpre, hdown "WAN2" (by decide)⟩

end ReportedRouter

end WanRouter
