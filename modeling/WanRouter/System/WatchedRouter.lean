import WanRouter.Lib.Relay
import WanRouter.Local.HeartbeatAlerts
import WanRouter.Remote.Silences

/-!
# The local monitor and the sentinel that watches it

The two programs and the heartbeats between them.  A heartbeat that the monitor
posts reaches the store of the sentinel at some later reading of its clock, in any
order with the others, or never.  Everything else either program does may happen
in between.
-/

namespace WanRouter

open OrderedDict RemoteAlertEngine HeartbeatStore Relay

abbrev WatchedRouter := Relay.State LocalMonitor RemoteSentinel HeartbeatPayload

namespace WatchedRouter

abbrev SystemEvent := Relay.Event MonitorEvent SentinelEvent ℤ

abbrev SystemOutput := Relay.Output MonitorOutput AlertEvent

/-- `HeartbeatSender.send` posts what the monitor puts out as a heartbeat, and
`POST /heartbeat` records it at a reading of the sentinel's clock. -/
def parties : Parties LocalMonitor RemoteSentinel MonitorEvent SentinelEvent MonitorOutput
    AlertEvent HeartbeatPayload ℤ where
  sender := LocalMonitor.step
  receiver := RemoteSentinel.step
  message? := MonitorOutput.heartbeat?
  arrival := .record
  isOwn e := e.recorded?.isNone

def step : WatchedRouter → SystemEvent → Option (WatchedRouter × List SystemOutput) :=
  Relay.step parties

def init (config : LocalConfig) (telegram : TelegramNotifier) (remote : RemoteHeartbeatConfig)
    (remoteTelegram : TelegramNotifier) : WatchedRouter where
  sender := LocalMonitor.init config telegram
  receiver := RemoteSentinel.init remote remoteTelegram
  inFlight := []

/-- The titles of the alerts about a WAN that the monitor has handed to Telegram so far. -/
def wanTitles (s : WatchedRouter) (out : List SystemOutput) (name : String) : List String :=
  ((s.sender.handed (out.filterMap Output.sender?)).filter
    (AlertEngine.isWanAlert name)).map AlertEvent.title

/-- The heartbeats that the sentinel has recorded, with the times of their arrivals. -/
def recorded (s : WatchedRouter) (es : List SystemEvent) : List (ℤ × HeartbeatPayload) :=
  RemoteSentinel.recorded (receiverEvents parties s es)

variable {config : LocalConfig} {telegram remoteTelegram : TelegramNotifier}
  {remote : RemoteHeartbeatConfig} {es : List SystemEvent} {s t : WatchedRouter}
  {out o : List SystemOutput}

/-- A recorded heartbeat was built by the monitor and then delivered. -/
theorem built_of_recorded
    (hrun : Machine.run step (init config telegram remote remoteTelegram) es = some (s, out))
    {arrived : ℤ} {payload : HeartbeatPayload}
    (hrecorded : (arrived, payload) ∈ recorded (init config telegram remote remoteTelegram) es) :
    ∃ pre built mid i post m o,
      es = pre ++ .sender (.heartbeat built) :: (mid ++ .deliver i arrived :: post) ∧
      Machine.run step (init config telegram remote remoteTelegram) pre = some (m, o) ∧
      payload = m.sender.heartbeatPayload built := by
  obtain ⟨event, hevent, hpayload⟩ := List.mem_filterMap.mp hrecorded
  have hown : ∀ e : SentinelEvent, parties.isOwn e = true → e.recorded?.map Prod.snd = none := by
    intro e he
    rw [Option.isNone_iff_eq_none.mp he]
    rfl
  obtain ⟨pre, e, mid, i, x, post, m, o, m', o', rfl, harrival, hpre, hsender, hput⟩ :=
    sent_before_received (fun _ _ ↦ rfl) hown rfl hrun hevent (congrArg _ hpayload)
  rw [harrival] at hpayload
  obtain rfl : x = arrived := congrArg Prod.fst (Option.some.inj hpayload)
  obtain ⟨built, rfl, heq⟩ := LocalMonitor.heartbeat_of_step hsender hput
  exact ⟨pre, built, mid, i, post, m, o, rfl, hpre, heq⟩

/-- A LOST alert shows the states of a heartbeat that the monitor built, and it shows a WAN as
DOWN exactly if the last alert about it before this heartbeat was DOWN; if no heartbeat ever
arrived, it shows no states. -/
theorem lost_alert_tells_alerts (config : LocalConfig) (telegram : TelegramNotifier)
    (remote : RemoteHeartbeatConfig) (remoteTelegram : TelegramNotifier)
    {es : List SystemEvent} {s t : WatchedRouter} {out o : List SystemOutput}
    {result : ProbeResult} {now now' : ℤ}
    (hrun : Machine.run step (init config telegram remote remoteTelegram) es = some (s, out))
    (hprobed : step s (.receiver (.probed result now now')) = some (t, o)) :
    (recorded (init config telegram remote remoteTelegram) es = [] ∧
      o = [.receiver (createMonitorLostAlert now' now ∅ result)]) ∨
    ∃ last pre built post m before,
      es = pre ++ .sender (.heartbeat built) :: post ∧
      Machine.run step (init config telegram remote remoteTelegram) pre = some (m, before) ∧
      (recorded (init config telegram remote remoteTelegram) es).getLast? =
        some (last, m.sender.heartbeatPayload built) ∧
      o = [.receiver (createMonitorLostAlert now' last
        (m.sender.heartbeatPayload built).wanStates result)] ∧
      ∀ name, ((m.sender.heartbeatPayload built).wanStates.get? name).map WANState.status =
          some .down ↔
        (wanTitles m before name).getLast? = some (name ++ " DOWN") := by
  have ho : o = [.receiver (s.receiver.lostAlert result now now')] := by
    cases transition_of_step hprobed with
    | receiver e hown hreceiver => rw [RemoteSentinel.probed_step hreceiver, List.map_singleton]
  have halert := RemoteSentinel.lostAlert_run (run_receiver hrun) result now now'
  change s.receiver.lostAlert result now now' = createMonitorLostAlert now'
    (((recorded (init config telegram remote remoteTelegram) es).getLast?.map Prod.fst).getD now)
    (((recorded (init config telegram remote remoteTelegram) es).getLast?.map
      fun p ↦ p.2.wanStates).getD ∅) result at halert
  rw [halert] at ho
  cases hlast : (recorded (init config telegram remote remoteTelegram) es).getLast? with
  | none =>
      refine Or.inl ⟨List.getLast?_eq_none_iff.mp hlast, ?_⟩
      rw [ho, hlast]
      rfl
  | some p =>
      obtain ⟨last, payload⟩ := p
      obtain ⟨pre, built, mid, i, post, m, before, hsplit, hpre, rfl⟩ :=
        built_of_recorded hrun (List.mem_of_getLast? hlast)
      refine Or.inr ⟨last, pre, built, _, m, before, hsplit, hpre, rfl, ?_, ?_⟩
      · rw [ho, hlast]
        rfl
      · exact fun name ↦ LocalMonitor.heartbeat_down_iff (run_sender hpre) name built

/-- The monitor reports the first poll, and the sentinel then hears nothing for three
minutes. -/
def silencedMonitor : List SystemEvent :=
  LocalMonitor.settledTrace.map .sender ++
    [.deliver 0 0, .receiver (.evaluate 181000000 181000000 181000000)]

theorem silencedMonitor_lost_alert :
    ∃ s out t o last pre built post m before,
      Machine.run step (init { router := dualWan } {} {} {}) silencedMonitor = some (s, out) ∧
      step s (.receiver (.probed .unreachable 182000000 182000000)) = some (t, o) ∧
      silencedMonitor = pre ++ .sender (.heartbeat built) :: post ∧
      Machine.run step (init { router := dualWan } {} {} {}) pre = some (m, before) ∧
      (recorded (init { router := dualWan } {} {} {}) silencedMonitor).getLast? =
        some (last, m.sender.heartbeatPayload built) ∧
      o = [.receiver (createMonitorLostAlert 182000000 last
        (m.sender.heartbeatPayload built).wanStates .unreachable)] ∧
      (((m.sender.heartbeatPayload built).wanStates.get? "WAN2").map WANState.status =
          some .down ↔
        (wanTitles m before "WAN2").getLast? = some "WAN2 DOWN") := by
  obtain ⟨s, out, t, o, hrun, hprobed⟩ : ∃ s out t o,
      Machine.run step (init { router := dualWan } {} {} {}) silencedMonitor = some (s, out) ∧
        step s (.receiver (.probed .unreachable 182000000 182000000)) = some (t, o) :=
    ⟨_, _, _, _, rfl, rfl⟩
  rcases lost_alert_tells_alerts _ _ _ _ hrun hprobed with
    ⟨hnone, -⟩ | ⟨last, pre, built, post, m, before, hsplit, hpre, hlast, ho, hdown⟩
  · exact absurd hnone (List.cons_ne_nil _ _)
  · exact ⟨s, out, t, o, last, pre, built, post, m, before, hrun, hprobed, hsplit, hpre, hlast, ho,
      hdown "WAN2"⟩

end WatchedRouter

end WanRouter
