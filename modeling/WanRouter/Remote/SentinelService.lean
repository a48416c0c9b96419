import WanRouter.Remote.Apps
import WanRouter.Remote.DnsLoop
import WanRouter.Remote.Silences

/-!
# The sentinel with its server

The model of `RemoteSentinel` as `start` runs it: the app that `create_app` makes for
the store, the monitor loop on the same store, and the loop of the DNS monitor.  A
request is handled while both loops are suspended.  Every part of the sentinel does
what it would do alone.
-/

namespace WanRouter

open HeartbeatStore RemoteAlertEngine

structure SentinelService where
  receiver : ReceiverModule
  /-- The object `self.store`, which the app shares with the monitor loop. -/
  store : ℕ
  probe : ExternalProbe
  telegram : TelegramNotifier
  dns : Option DnsLoop
  wasMissing : Bool := false
  position : MonitorPosition := .sleeping

inductive ServerEvent where
  | post (now receivedAt : ℤ) (payload : HeartbeatPayload)
  | health (now : ℤ)
  | evaluate (now now' now'' : ℤ)
  | probe (attempts : ProbeAttempts) (now now' : ℤ)
  | sent (reply : BotReply)
  | dns (event : DnsEvent)

inductive ServerOutput where
  | answer (output : AppOutput)
  | alert (event : AlertEvent)
  | dns (output : DnsOutput)

namespace ServerOutput

def alert? : ServerOutput → Option AlertEvent
  | .alert event => some event
  | _ => none

def dns? : ServerOutput → Option DnsOutput
  | .dns output => some output
  | _ => none

theorem filterMap_alert (alerts : List AlertEvent) :
    (alerts.map ServerOutput.alert).filterMap alert? = alerts := by
  simp [List.filterMap_map, Function.comp_def, alert?]

theorem filterMap_alert_dns (outputs : List DnsOutput) :
    (outputs.map ServerOutput.dns).filterMap alert? = [] := by
  simp [alert?]

theorem filterMap_dns (outputs : List DnsOutput) :
    (outputs.map ServerOutput.dns).filterMap dns? = outputs := by
  simp [List.filterMap_map, Function.comp_def, dns?]

theorem filterMap_dns_answer (outputs : List AppOutput) :
    (outputs.map ServerOutput.answer).filterMap dns? = [] := by
  simp [dns?]

theorem filterMap_dns_alert (alerts : List AlertEvent) :
    (alerts.map ServerOutput.alert).filterMap dns? = [] := by
  simp [dns?]

end ServerOutput

namespace SentinelService

/-- `RemoteSentinel.__init__`; the app is the first one of the process. -/
def init (config : RemoteConfig) (telegram : TelegramNotifier) : SentinelService where
  receiver := ReceiverModule.createApp { objects := [ofConfig config.heartbeat] } (some 0)
  store := 0
  probe := ExternalProbe.init config.externalProbe.targetIp config.externalProbe.enabled
  telegram := telegram
  dns := DnsLoop.ofConfig config.dnsMonitor telegram

/-- What the monitor loop works on. -/
def sentinel? (self : SentinelService) : Option RemoteSentinel :=
  self.receiver.objects[self.store]?.map fun store ↦
    { store := store
      telegram := self.telegram
      wasMissing := self.wasMissing
      position := self.position }

def setSentinel (self : SentinelService) (s : RemoteSentinel) : SentinelService :=
  { self with
    receiver := { self.receiver with objects := self.receiver.objects.set self.store s.store }
    wasMissing := s.wasMissing
    position := s.position }

def request (self : SentinelService) (event : AppEvent) :
    Option (SentinelService × List ServerOutput) :=
  (self.receiver.step event).map fun p ↦ ({ self with receiver := p.1 }, p.2.map .answer)

def monitorLoop (self : SentinelService) (event : SentinelEvent) :
    Option (SentinelService × List ServerOutput) :=
  self.sentinel?.bind fun s ↦ (s.step event).map fun p ↦ (self.setSentinel p.1, p.2.map .alert)

def dnsMonitorLoop (self : SentinelService) (event : DnsEvent) :
    Option (SentinelService × List ServerOutput) :=
  self.dns.bind fun l ↦ (l.step event).map fun p ↦ ({ self with dns := some p.1 }, p.2.map .dns)

def step (self : SentinelService) : ServerEvent → Option (SentinelService × List ServerOutput)
  | .post now receivedAt payload => self.request (.heartbeat 0 now receivedAt payload)
  | .health now => self.request (.health 0 now)
  | .evaluate now now' now'' => self.monitorLoop (.evaluate now now' now'')
  | .probe attempts now now' => self.monitorLoop (.probed (self.probe.check attempts) now now')
  | .sent reply => self.monitorLoop (.sent reply)
  | .dns event => self.dnsMonitorLoop event

/-! ## The parts -/

/-- What an event is for the monitor loop. -/
def watched (probe : ExternalProbe) : ServerEvent → List SentinelEvent
  | .post now _ payload => [.record now payload]
  | .health _ => []
  | .evaluate now now' now'' => [.evaluate now now' now'']
  | .probe attempts now now' => [.probed (probe.check attempts) now now']
  | .sent reply => [.sent reply]
  | .dns _ => []

def dnsEvents : ServerEvent → List DnsEvent
  | .dns event => [event]
  | _ => []

/-- The app of the service is served from the store that the loop works on. -/
structure Shows (probe : ExternalProbe) (s : SentinelService) (m : RemoteSentinel) : Prop where
  store : s.receiver.store = some s.store
  apps : s.receiver.apps = [s.store]
  probe : s.probe = probe
  sentinel : s.sentinel? = some m

variable {config : RemoteConfig} {telegram : TelegramNotifier} {probe : ExternalProbe}
  {s t : SentinelService} {m : RemoteSentinel} {e : ServerEvent} {es : List ServerEvent}
  {out o : List ServerOutput}

theorem Shows.object (h : Shows probe s m) : s.receiver.objects[s.store]? = some m.store := by
  obtain ⟨store, hstore, rfl⟩ := Option.map_eq_some_iff.mp h.sentinel
  exact hstore

theorem Shows.health (h : Shows probe s m) (now : ℤ) :
    step s (.health now) = some (s, [.answer (.reported
      { status := "ok"
        lastHeartbeat := m.store.lastHeartbeat
        heartbeatMissing := m.store.isMissing now })]) := by
  simp [step, request, ReceiverModule.step, ReceiverModule.health, h.apps, h.store, h.object]

theorem Shows.post (h : Shows probe s m) {now receivedAt : ℤ} {payload : HeartbeatPayload}
    (hstep : step s (.post now receivedAt payload) = some (t, o)) :
    Shows probe t { m with store := m.store.record now payload } ∧
      o = [.answer (.received { status := "ok", receivedAt := receivedAt })] := by
  have happ : 0 < s.receiver.apps.length := by simp [h.apps]
  simp only [step, request, ReceiverModule.step, if_pos happ, ReceiverModule.receiveHeartbeat,
    h.store, Option.map_some, Option.some.injEq] at hstep
  cases hstep
  refine ⟨⟨rfl, h.apps, h.probe, ?_⟩, rfl⟩
  obtain ⟨store, hstore, rfl⟩ := Option.map_eq_some_iff.mp h.sentinel
  simp [sentinel?, hstore]

/-- A step of the monitor loop keeps the notifier. -/
theorem Shows.setSentinel (h : Shows probe s m) {m' : RemoteSentinel}
    (htelegram : m'.telegram = m.telegram) : Shows probe (s.setSentinel m') m' where
  store := h.store
  apps := h.apps
  probe := h.probe
  sentinel := by
    obtain ⟨hlt, -⟩ := List.getElem?_eq_some_iff.mp h.object
    obtain ⟨store, -, rfl⟩ := Option.map_eq_some_iff.mp h.sentinel
    have hnotifier : m'.telegram = s.telegram := htelegram
    rw [sentinel?, SentinelService.setSentinel, List.getElem?_set_self hlt, Option.map_some,
      ← hnotifier]

theorem Shows.monitorLoop (h : Shows probe s m) {event : SentinelEvent}
    (hstep : s.monitorLoop event = some (t, o)) :
    ∃ m', Machine.run RemoteSentinel.step m [event] =
        some (m', o.filterMap ServerOutput.alert?) ∧ Shows probe t m' := by
  rw [SentinelService.monitorLoop, h.sentinel, Option.bind_some,
    Option.map_eq_some_iff] at hstep
  obtain ⟨⟨m', alerts⟩, hm, heq⟩ := hstep
  cases heq
  refine ⟨m', ?_, h.setSentinel (RemoteSentinel.transition_of_step hm).telegram_eq⟩
  rw [Machine.run_singleton, hm, ServerOutput.filterMap_alert]

/-- What a step is for the monitor loop. -/
theorem Shows.step (h : Shows probe s m) (hstep : step s e = some (t, o)) :
    ∃ m', Machine.run RemoteSentinel.step m (watched probe e) =
        some (m', o.filterMap ServerOutput.alert?) ∧ Shows probe t m' := by
  cases e with
  | post now receivedAt payload =>
      obtain ⟨hshows, rfl⟩ := h.post hstep
      exact ⟨_, rfl, hshows⟩
  | health now =>
      rw [h.health now] at hstep
      cases hstep
      exact ⟨m, rfl, h⟩
  | evaluate now now' now'' => exact h.monitorLoop hstep
  | probe attempts now now' =>
      rw [SentinelService.step, h.probe] at hstep
      exact h.monitorLoop hstep
  | sent reply => exact h.monitorLoop hstep
  | dns event =>
      rw [SentinelService.step, dnsMonitorLoop, Option.bind_eq_some_iff] at hstep
      obtain ⟨l, -, hmap⟩ := hstep
      obtain ⟨⟨l', outputs⟩, -, heq⟩ := Option.map_eq_some_iff.mp hmap
      cases heq
      refine ⟨m, ?_, h.store, h.apps, h.probe, h.sentinel⟩
      rw [ServerOutput.filterMap_alert_dns]
      rfl

/-- What a step is for the DNS loop. -/
theorem dns_step {l : DnsLoop} (hdns : s.dns = some l) (hstep : step s e = some (t, o)) :
    ∃ l', Machine.run DnsLoop.step l (dnsEvents e) =
        some (l', o.filterMap ServerOutput.dns?) ∧ t.dns = some l' := by
  have hrequest : ∀ {event}, s.request event = some (t, o) →
      o.filterMap ServerOutput.dns? = [] ∧ t.dns = some l := by
    intro event hstep
    obtain ⟨⟨receiver, outputs⟩, -, heq⟩ := Option.map_eq_some_iff.mp hstep
    cases heq
    exact ⟨ServerOutput.filterMap_dns_answer outputs, hdns⟩
  have hloop : ∀ {event}, s.monitorLoop event = some (t, o) →
      o.filterMap ServerOutput.dns? = [] ∧ t.dns = some l := by
    intro event hstep
    obtain ⟨m, -, hmap⟩ := Option.bind_eq_some_iff.mp hstep
    obtain ⟨⟨m', alerts⟩, -, heq⟩ := Option.map_eq_some_iff.mp hmap
    cases heq
    exact ⟨ServerOutput.filterMap_dns_alert alerts, hdns⟩
  have hquiet : o.filterMap ServerOutput.dns? = [] ∧ t.dns = some l →
      ∃ l', Machine.run DnsLoop.step l [] = some (l', o.filterMap ServerOutput.dns?) ∧
        t.dns = some l' := by
    rintro ⟨hnone, hkept⟩
    exact ⟨l, by rw [hnone, Machine.run_nil], hkept⟩
  cases e with
  | post now receivedAt payload => exact hquiet (hrequest hstep)
  | health now => exact hquiet (hrequest hstep)
  | evaluate now now' now'' => exact hquiet (hloop hstep)
  | probe attempts now now' => exact hquiet (hloop hstep)
  | sent reply => exact hquiet (hloop hstep)
  | dns event =>
      rw [SentinelService.step, dnsMonitorLoop, hdns, Option.bind_some,
        Option.map_eq_some_iff] at hstep
      obtain ⟨⟨l', outputs⟩, hl, heq⟩ := hstep
      cases heq
      refine ⟨l', ?_, rfl⟩
      rw [dnsEvents, Machine.run_singleton, hl, ServerOutput.filterMap_dns]

/-! ## Runs -/

def posted? : ServerEvent → Option (ℤ × HeartbeatPayload)
  | .post now _ payload => some (now, payload)
  | _ => none

/-- The heartbeats posted in a run, each with the time of its record. -/
def posted (es : List ServerEvent) : List (ℤ × HeartbeatPayload) := es.filterMap posted?

theorem recorded_watched (probe : ExternalProbe) (es : List ServerEvent) :
    RemoteSentinel.recorded (es.flatMap (watched probe)) = posted es := by
  induction es with
  | nil => rfl
  | cons e es ih =>
      rw [List.flatMap_cons, RemoteSentinel.recorded, List.filterMap_append,
        ← RemoteSentinel.recorded, ← RemoteSentinel.recorded, ih]
      cases e <;> rfl

theorem shows_init (config : RemoteConfig) (telegram : TelegramNotifier) :
    Shows (init config telegram).probe (init config telegram)
      (RemoteSentinel.init config.heartbeat telegram) := ⟨rfl, rfl, rfl, rfl⟩

theorem shows_run (h : Shows probe s m) (hrun : Machine.run step s es = some (t, out)) :
    ∃ m', Machine.run RemoteSentinel.step m (es.flatMap (watched probe)) =
        some (m', out.filterMap ServerOutput.alert?) ∧ Shows probe t m' :=
  Machine.run_component (fun _ _ _ _ _ hshows hstep ↦ hshows.step hstep) h hrun

theorem dns_run {l : DnsLoop} (hdns : s.dns = some l)
    (hrun : Machine.run step s es = some (t, out)) :
    ∃ l', Machine.run DnsLoop.step l (es.flatMap dnsEvents) =
        some (l', out.filterMap ServerOutput.dns?) ∧ t.dns = some l' :=
  Machine.run_component (fun _ _ _ _ _ hsome hstep ↦ dns_step hsome hstep) hdns hrun

/-- What the store of a run knows is the heartbeat posted last. -/
theorem shows_posted (hrun : Machine.run step (init config telegram) es = some (s, out)) :
    ∃ m, Machine.run RemoteSentinel.step (RemoteSentinel.init config.heartbeat telegram)
        (es.flatMap (watched (init config telegram).probe)) =
          some (m, out.filterMap ServerOutput.alert?) ∧
      Shows (init config telegram).probe s m ∧
      m.store.lastHeartbeat = (posted es).getLast?.map Prod.fst ∧
      ∀ now, m.store.isMissing now = true ↔
        config.heartbeat.Silent ((posted es).getLast?.map Prod.fst) now := by
  obtain ⟨m, hm, hshows⟩ := shows_run (shows_init config telegram) hrun
  have hlast : (RemoteSentinel.recordTimes
      (es.flatMap (watched (init config telegram).probe))).getLast? =
        (posted es).getLast?.map Prod.fst := by
    rw [RemoteSentinel.recordTimes_eq, recorded_watched, List.getLast?_map]
  refine ⟨m, hm, hshows, ?_, ?_⟩
  · rw [RemoteSentinel.lastHeartbeat_run hm, hlast]
  · intro now
    rw [RemoteSentinel.isMissing_iff_silent hm, hlast]

/-- The monitor loop does what it would do alone with the posted heartbeats, the DNS loop does
what it would do alone, and every `GET /health` tells the heartbeat posted last and whether it
is missing, and changes nothing. -/
theorem service_splits (config : RemoteConfig) (telegram : TelegramNotifier)
    {es : List ServerEvent} {s : SentinelService} {out : List ServerOutput}
    (hrun : Machine.run step (init config telegram) es = some (s, out)) :
    (∃ m, Machine.run RemoteSentinel.step (RemoteSentinel.init config.heartbeat telegram)
        (es.flatMap (watched (init config telegram).probe)) =
          some (m, out.filterMap ServerOutput.alert?)) ∧
    (∀ l, DnsLoop.ofConfig config.dnsMonitor telegram = some l →
      ∃ l', Machine.run DnsLoop.step l (es.flatMap dnsEvents) =
        some (l', out.filterMap ServerOutput.dns?)) ∧
    ∀ now, ∃ missing,
      step s (.health now) = some (s, [.answer (.reported
        { status := "ok"
          lastHeartbeat := (posted es).getLast?.map Prod.fst
          heartbeatMissing := missing })]) ∧
      (missing = true ↔
        config.heartbeat.Silent ((posted es).getLast?.map Prod.fst) now) := by
  obtain ⟨m, hm, hshows, hlast, hmissing⟩ := shows_posted hrun
  refine ⟨⟨m, hm⟩, ?_, ?_⟩
  · intro l hl
    obtain ⟨l', hl', -⟩ := dns_run hl hrun
    exact ⟨l', hl'⟩
  · intro now
    refine ⟨m.store.isMissing now, ?_, hmissing now⟩
    rw [← hlast]
    exact hshows.health now

/-- A heartbeat, a look at the DNS record and an evaluation that finds nothing wrong. -/
def quietMinute : List ServerEvent :=
  [.post 0 0 RemoteSentinel.emptyPayload, .dns (.check 1000000 (.answered ["192.0.2.1"])),
    .evaluate 10000000 10000000 10000000, .health 60000000]

def homeService : RemoteConfig where
  externalProbe := { enabled := true, targetIp := "192.0.2.1" }
  dnsMonitor := DnsLoop.homeConfig

theorem quietMinute_splits :
    ∃ s out m l', Machine.run step (init homeService {}) quietMinute = some (s, out) ∧
      Machine.run RemoteSentinel.step (RemoteSentinel.init homeService.heartbeat {})
        [.record 0 RemoteSentinel.emptyPayload, .evaluate 10000000 10000000 10000000] =
          some (m, out.filterMap ServerOutput.alert?) ∧
      Machine.run DnsLoop.step
        { monitor := DnsLoop.initialMonitor DnsLoop.homeConfig, telegram := {}, interval := 300 }
        [.check 1000000 (.answered ["192.0.2.1"])] =
          some (l', out.filterMap ServerOutput.dns?) ∧
      step s (.health 181000000) = some (s, [.answer (.reported
        { status := "ok", lastHeartbeat := some 0, heartbeatMissing := true })]) := by
  obtain ⟨s, out, hrun⟩ : ∃ s out,
      Machine.run step (init homeService {}) quietMinute = some (s, out) := ⟨_, _, rfl⟩
  obtain ⟨⟨m, hm⟩, hdns, hhealth⟩ := service_splits homeService {} hrun
  obtain ⟨l', hl'⟩ := hdns _ rfl
  obtain ⟨missing, hanswer, hsilent⟩ := hhealth 181000000
  have hmissing : missing = true := by
    apply hsilent.mpr
    rintro t ⟨⟩
    decide
  rw [hmissing] at hanswer
  exact ⟨s, out, m, l', hrun, hm, hl', hanswer⟩

/-! ## An outage -/

def readings : ServerEvent → List ℤ
  | .post now receivedAt _ => [now, receivedAt]
  | .health now => [now]
  | .evaluate now now' now'' => [now, now', now'']
  | .probe _ now now' => [now, now']
  | .sent _ => []
  | .dns (.check now _) => [now]
  | .dns (.sent _) => []

/-- What holds from the decision that the monitor is lost on, until the next heartbeat. -/
structure InOutage (probe : ExternalProbe) (decided : RemoteSentinel) (span : List ServerEvent)
    (m : RemoteSentinel) (alerts : List AlertEvent) : Prop where
  store : m.store = decided.store
  notRecovering : ∀ alert, m.position ≠ .sendingRecovered alert
  count : alerts.length + m.pendingLost = 1
  built : ∀ alert ∈ alerts, ∃ attempts now now', .probe attempts now now' ∈ span ∧
    alert = decided.lostAlert (probe.check attempts) now now'

variable {decided m' : RemoteSentinel} {alerts more : List AlertEvent} {now now' now'' : ℤ}
  {span : List ServerEvent}

theorem InOutage.built_append (h : InOutage probe decided span m alerts)
    (later : List ServerEvent) : ∀ alert ∈ alerts, ∃ attempts now now',
      .probe attempts now now' ∈ span ++ later ∧
        alert = decided.lostAlert (probe.check attempts) now now' := by
  intro alert halert
  obtain ⟨attempts, now, now', hmem, hbuilt⟩ := h.built alert halert
  exact ⟨attempts, now, now', List.mem_append_left _ hmem, hbuilt⟩

/-- A step of another part of the process. -/
theorem InOutage.other (h : InOutage probe decided span m alerts) (e : ServerEvent) :
    InOutage probe decided (span ++ [e]) m (alerts ++ []) := by
  rw [List.append_nil]
  exact ⟨h.store, h.notRecovering, h.count, h.built_append [e]⟩

theorem InOutage.frame (h : InOutage probe decided span m alerts) (e : ServerEvent)
    (hstore : m'.store = m.store)
    (hposition : m.position ≠ .probing ∧ m'.position = .sleeping) :
    InOutage probe decided (span ++ [e]) m' (alerts ++ []) := by
  have hcount := h.count
  rw [RemoteSentinel.pendingLost_of_ne hposition.1] at hcount
  rw [List.append_nil]
  refine ⟨hstore.trans h.store, by simp [hposition.2], ?_, h.built_append [e]⟩
  rw [RemoteSentinel.pendingLost_of_ne (by simp [hposition.2])]
  exact hcount

theorem InOutage.step (h : InOutage probe decided span m alerts)
    (halerted : decided.store.alertedMissing = true)
    (hmissing : ∀ later, now ≤ later → decided.store.isMissing later = true)
    (hquiet : posted? e = none) (hclock : ∀ r ∈ readings e, now ≤ r)
    (hrun : Machine.run RemoteSentinel.step m (watched probe e) = some (m', more)) :
    InOutage probe decided (span ++ [e]) m' (alerts ++ more) := by
  cases e with
  | post _ _ _ => cases hquiet
  | health _ =>
      cases hrun
      exact h.other _
  | dns _ =>
      cases hrun
      exact h.other _
  | evaluate n n' n'' =>
      rw [watched, Machine.run_singleton] at hrun
      have hlater := hmissing n' (hclock n' (by simp [readings]))
      rw [← h.store] at hlater halerted
      cases RemoteSentinel.transition_of_step hrun with
      | decideLost _ _ _ hpos hlost hclear => simp [halerted] at hclear
      | handRecovered _ _ _ hpos hquiet hwas hpresent => simp [hlater] at hpresent
      | idle _ _ _ hpos hquiet hidle => exact h.frame _ rfl ⟨by simp [hpos], hpos⟩
  | probe attempts n n' =>
      rw [watched, Machine.run_singleton] at hrun
      cases RemoteSentinel.transition_of_step hrun with
      | handLost _ _ _ hpos =>
          have hcount := h.count
          rw [RemoteSentinel.pendingLost, if_pos hpos] at hcount
          obtain rfl : alerts = [] := List.eq_nil_of_length_eq_zero (by omega)
          refine ⟨h.store, by simp, by simp [RemoteSentinel.pendingLost], ?_⟩
          intro alert halert
          obtain rfl := List.mem_singleton.mp halert
          refine ⟨attempts, n, n', by simp, ?_⟩
          rw [RemoteSentinel.lostAlert, RemoteSentinel.lostAlert, h.store]
  | sent reply =>
      rw [watched, Machine.run_singleton] at hrun
      cases RemoteSentinel.transition_of_step hrun with
      | sentLost alert _ hpos =>
          exact h.frame _ (RemoteSentinel.finishSend_store _ _ _)
            ⟨by simp [hpos], RemoteSentinel.finishSend_position _ _ _⟩
      | sentRecovered alert _ hpos => exact absurd hpos (h.notRecovering alert)

theorem Shows.position (h : Shows probe s m) : m.position = s.position := by
  obtain ⟨store, -, rfl⟩ := Option.map_eq_some_iff.mp h.sentinel
  rfl

/-- A LOST alert is decided, but the probe has not answered yet. -/
def pendingLost (s : SentinelService) : ℕ := if s.position = .probing then 1 else 0

theorem Shows.pendingLost (h : Shows probe s m) :
    m.pendingLost = SentinelService.pendingLost s := by
  rw [RemoteSentinel.pendingLost, SentinelService.pendingLost, h.position]

/-- A run from the decision on. -/
theorem inOutage_run (h : Shows probe s decided) (hpos : decided.position = .probing)
    (halerted : decided.store.alertedMissing = true)
    (hmissing : ∀ later, now ≤ later → decided.store.isMissing later = true)
    (hrun : Machine.run step s es = some (t, out)) :
    (∀ e ∈ es, posted? e = none) → (∀ e ∈ es, ∀ r ∈ readings e, now ≤ r) →
      ∃ m, Shows probe t m ∧
        InOutage probe decided es m (out.filterMap ServerOutput.alert?) := by
  refine Machine.run_induction step (P := fun es t out ↦
    (∀ e ∈ es, posted? e = none) → (∀ e ∈ es, ∀ r ∈ readings e, now ≤ r) →
      ∃ m, Shows probe t m ∧
        InOutage probe decided es m (out.filterMap ServerOutput.alert?))
    ?_ ?_ es t out hrun
  · intro _ _
    refine ⟨decided, h, rfl, by simp [hpos], ?_, by simp⟩
    rw [RemoteSentinel.pendingLost, if_pos hpos]
    rfl
  · intro es n out e t o _ ih hstep hquiet hclock
    obtain ⟨m, hshows, houtage⟩ := ih (fun d hd ↦ hquiet d (List.mem_append_left _ hd))
      fun d hd ↦ hclock d (List.mem_append_left _ hd)
    obtain ⟨m', hm, hshows'⟩ := hshows.step hstep
    rw [List.filterMap_append]
    exact ⟨m', hshows', houtage.step halerted hmissing (hquiet e (by simp))
      (hclock e (by simp)) hm⟩

/-- From the decision that the monitor is lost until the next heartbeat is posted, at most one
alert is handed over, and it is the LOST alert about the heartbeat posted last, with the answer
of a probe made since; and every `GET /health` says that the heartbeats are missing since then. -/
theorem outage_reported (config : RemoteConfig) (telegram : TelegramNotifier)
    {es span : List ServerEvent} {s t u : SentinelService} {out o o' : List ServerOutput}
    {now now' now'' : ℤ}
    (hrun : Machine.run step (init config telegram) es = some (s, out))
    (hdecided : step s (.evaluate now now' now'') = some (t, o)) (hpos : t.position = .probing)
    (hspan : Machine.run step t span = some (u, o')) (hquiet : ∀ e ∈ span, posted? e = none)
    (hclock : ∀ e ∈ span, ∀ r ∈ readings e, now ≤ r) :
    (o'.filterMap ServerOutput.alert?).length + pendingLost u = 1 ∧
    (∀ alert ∈ o'.filterMap ServerOutput.alert?, ∃ attempts n n',
      .probe attempts n n' ∈ span ∧
      alert = createMonitorLostAlert n' (((posted es).getLast?.map Prod.fst).getD n)
        (((posted es).getLast?.map fun p ↦ p.2.wanStates).getD ∅)
        ((init config telegram).probe.check attempts)) ∧
    ∀ later, now ≤ later →
      step u (.health later) = some (u, [.answer (.reported
        { status := "ok"
          lastHeartbeat := (posted es).getLast?.map Prod.fst
          heartbeatMissing := true })]) := by
  obtain ⟨m, hm, hshows, hlast, -⟩ := shows_posted hrun
  obtain ⟨decided, hstep, hshows'⟩ := hshows.step hdecided
  have halerts := RemoteSentinel.lostAlert_run hm
  rw [recorded_watched] at halerts
  rw [watched, Machine.run_singleton] at hstep
  rw [← hshows'.position] at hpos
  generalize o.filterMap ServerOutput.alert? = given at hstep
  cases RemoteSentinel.transition_of_step hstep with
  | handRecovered _ _ _ _ _ _ _ => cases hpos
  | idle _ _ _ hsleeping => simp [hsleeping] at hpos
  | decideLost _ _ _ _ hmissing _ =>
      have hlater : ∀ later, now ≤ later → m.store.isMissing later = true :=
        fun later hle ↦ m.store.isMissing_of_le hmissing hle
      obtain ⟨n, hn, houtage⟩ := inOutage_run hshows' rfl rfl hlater hspan hquiet hclock
      refine ⟨hn.pendingLost ▸ houtage.count, ?_, ?_⟩
      · intro alert halert
        obtain ⟨attempts, n, n', hmem, rfl⟩ := houtage.built alert halert
        exact ⟨attempts, n, n', hmem, halerts _ n n'⟩
      · intro later hle
        have hhealth := hn.health later
        rw [houtage.store] at hhealth
        rw [hhealth, ← hlast, ← hlater later hle]
        rfl

/-- The probe is awaited for a second after the decision. -/
def probedOutage : List ServerEvent :=
  [.health 182000000, .probe ⟨.httpError, fun _ ↦ .openRaised⟩ 182000000 182000000,
    .sent .delivered, .evaluate 192000000 192000000 192000000]

theorem probedOutage_reported :
    ∃ s out t o u o', Machine.run step (init homeService {}) quietMinute = some (s, out) ∧
      step s (.evaluate 181000000 181000000 181000000) = some (t, o) ∧
      Machine.run step t probedOutage = some (u, o') ∧
      (o'.filterMap ServerOutput.alert?).length + pendingLost u = 1 ∧
      step u (.health 200000000) = some (u, [.answer (.reported
        { status := "ok", lastHeartbeat := some 0, heartbeatMissing := true })]) := by
  obtain ⟨s, out, t, o, u, o', hrun, hdecided, hpos, hspan⟩ : ∃ s out t o u o',
      Machine.run step (init homeService {}) quietMinute = some (s, out) ∧
        step s (.evaluate 181000000 181000000 181000000) = some (t, o) ∧
        t.position = .probing ∧ Machine.run step t probedOutage = some (u, o') :=
    ⟨_, _, _, _, _, _, rfl, rfl, rfl, rfl⟩
  have hclock : ∀ e ∈ probedOutage, ∀ r ∈ readings e, 181000000 ≤ r := by
    simp [probedOutage, readings]
  have hquiet : ∀ e ∈ probedOutage, posted? e = none := by simp [probedOutage, posted?]
  obtain ⟨hcount, -, hhealth⟩ :=
    outage_reported homeService {} hrun hdecided hpos hspan hquiet hclock
  exact ⟨s, out, t, o, u, o', hrun, hdecided, hspan, hcount, hhealth 200000000 (by decide)⟩

end SentinelService

end WanRouter
