import WanRouter.Lib.Machine
import WanRouter.Local.Rounds

/-!
# The local monitor

The model of `LocalMonitor` in `local/main.py` and of the payloads of
`local/heartbeat.py`.  `_poll_loop` runs from one suspension to the next, and the
heartbeat loop and the syslog callback run while it is suspended.  The events
carry the clock readings and the answers, and the outputs are what leaves the
monitor.
-/

namespace WanRouter

open OrderedDict

/-- The Python slice `l[-n:]` for a positive `n`. -/
def lastItems {α : Type*} (n : ℕ) (l : List α) : List α := l.drop (l.length - n)

def HeartbeatSender.buildPayload (now : ℤ) (wanStates : Dict String WANState)
    (recentEvents : List AlertEvent) : HeartbeatPayload where
  timestamp := now
  wanStates := wanStates
  recentEvents := lastItems 10 recentEvents
  monitorVersion := "0.1.0"

/-- Where `_poll_loop` stands.  It starts like a loop whose sleep is over. -/
inductive PollPosition where
  | sleeping
  | polling (interval : ℤ)
  /-- Between two calls of `process_wan_state`; the loop is not suspended here. -/
  | processing (interval : ℤ) (allStates : Dict String WANState) (remaining : List WANState)
  | sending (interval : ℤ) (allStates : Dict String WANState) (remaining : List WANState)
      (alert : AlertEvent) (later : List AlertEvent)

structure LocalMonitor where
  config : LocalConfig
  telegram : TelegramNotifier
  poller : SNMPPoller
  alertEngine : AlertEngine
  recentEvents : List AlertEvent := []
  position : PollPosition := .sleeping

inductive MonitorEvent where
  | startPoll
  | polled (input : PollInput)
  | process (now : ℤ)
  | finish
  | sendDone (reply : BotReply)
  | heartbeat (now : ℤ)
  | syslog (now : ℤ) (event : SyslogEvent)

inductive MonitorOutput where
  | polled (states : Dict String WANState)
  /-- An alert handed to `send_alert` by the poll loop, with what the call gave. -/
  | sent (alert : AlertEvent) (result : SendResult)
  | slept (seconds : ℤ)
  | heartbeat (payload : HeartbeatPayload)
  /-- An alert handed to `send_alert` in a task of its own. -/
  | dispatched (alert : AlertEvent)

namespace LocalMonitor

def init (config : LocalConfig) (telegram : TelegramNotifier) : LocalMonitor where
  config := config
  telegram := telegram
  poller := (Monitoring.init config.router).poller
  alertEngine := (Monitoring.init config.router).engine

def pollInterval (self : LocalMonitor) : ℤ :=
  if self.alertEngine.shouldUseAlertInterval then self.config.polling.alertInterval
  else self.config.polling.normalInterval

/-- Whether other tasks can run: `send_alert` awaits only when there is a bot to call. -/
def suspended (self : LocalMonitor) : Bool :=
  match self.position with
  | .sleeping => true
  | .polling _ => true
  | .processing _ _ _ => false
  | .sending _ _ _ _ _ => !self.telegram.mockMode && self.telegram.hasBot

/-- The loop `for alert in alerts`, up to its next suspension. -/
def deliver (self : LocalMonitor) (interval : ℤ) (allStates : Dict String WANState)
    (remaining : List WANState) : List AlertEvent → LocalMonitor
  | [] => { self with position := .processing interval allStates remaining }
  | alert :: later =>
      { self with
        recentEvents := self.recentEvents ++ [alert]
        position := .sending interval allStates remaining alert later }

def heartbeatPayload (self : LocalMonitor) (now : ℤ) : HeartbeatPayload :=
  HeartbeatSender.buildPayload now self.alertEngine.getCurrentWanStates self.recentEvents

def step (self : LocalMonitor) : MonitorEvent → Option (LocalMonitor × List MonitorOutput)
  | .startPoll =>
      match self.position with
      | .sleeping => some ({ self with position := .polling self.pollInterval }, [])
      | _ => none
  | .polled input =>
      match self.position with
      | .polling interval =>
          let polled := self.poller.poll input
          some ({ self with
            poller := polled.1
            position := .processing interval polled.2 polled.2.values }, [.polled polled.2])
      | _ => none
  | .process now =>
      match self.position with
      | .processing interval allStates (state :: remaining) =>
          let processed := self.alertEngine.processWanState now state (some allStates)
          some (deliver { self with alertEngine := processed.1 } interval allStates remaining
            processed.2, [])
      | _ => none
  | .finish =>
      match self.position with
      | .processing interval _ [] =>
          some ({ self with
            recentEvents := lastItems 100 self.recentEvents
            position := .sleeping }, [.slept interval])
      | _ => none
  | .sendDone reply =>
      match self.position with
      | .sending interval allStates remaining alert later =>
          match self.telegram.sendAlert alert reply with
          | .returned ok =>
              some (self.deliver interval allStates remaining later, [.sent alert (.returned ok)])
          | .raised => some ({ self with position := .sleeping }, [.sent alert .raised, .slept 10])
      | _ => none
  | .heartbeat now =>
      if self.suspended then some (self, [.heartbeat (self.heartbeatPayload now)]) else none
  | .syslog now event =>
      if self.suspended then
        let alerts := self.alertEngine.processSyslogEvent now event
        some ({ self with recentEvents := self.recentEvents ++ alerts }, alerts.map .dispatched)
      else none

/-! ## What a step can do -/

inductive Transition (m : LocalMonitor) :
    MonitorEvent → LocalMonitor → List MonitorOutput → Prop
  | startPoll (hpos : m.position = .sleeping) :
      Transition m .startPoll { m with position := .polling m.pollInterval } []
  | polled (input : PollInput) (interval : ℤ) (hpos : m.position = .polling interval) :
      Transition m (.polled input)
        { m with
          poller := (m.poller.poll input).1
          position := .processing interval (m.poller.states input)
            (m.poller.states input).values }
        [.polled (m.poller.states input)]
  | process (now : ℤ) {interval : ℤ} {allStates : Dict String WANState} {state : WANState}
      {remaining : List WANState}
      (hpos : m.position = .processing interval allStates (state :: remaining)) :
      Transition m (.process now)
        (deliver
          { m with alertEngine := (m.alertEngine.processWanState now state (some allStates)).1 }
          interval allStates remaining
          (m.alertEngine.processWanState now state (some allStates)).2) []
  | finish {interval : ℤ} {allStates : Dict String WANState}
      (hpos : m.position = .processing interval allStates []) :
      Transition m .finish
        { m with recentEvents := lastItems 100 m.recentEvents, position := .sleeping }
        [.slept interval]
  | sendReturned (reply : BotReply) (ok : Bool) {interval : ℤ}
      {allStates : Dict String WANState} {remaining : List WANState} {alert : AlertEvent}
      {later : List AlertEvent}
      (hpos : m.position = .sending interval allStates remaining alert later)
      (hresult : m.telegram.sendAlert alert reply = .returned ok) :
      Transition m (.sendDone reply) (m.deliver interval allStates remaining later)
        [.sent alert (.returned ok)]
  | sendRaised (reply : BotReply) {interval : ℤ} {allStates : Dict String WANState}
      {remaining : List WANState} {alert : AlertEvent} {later : List AlertEvent}
      (hpos : m.position = .sending interval allStates remaining alert later)
      (hresult : m.telegram.sendAlert alert reply = .raised) :
      Transition m (.sendDone reply) { m with position := .sleeping }
        [.sent alert .raised, .slept 10]
  | heartbeat (now : ℤ) (hsuspended : m.suspended = true) :
      Transition m (.heartbeat now) m [.heartbeat (m.heartbeatPayload now)]
  | syslog (now : ℤ) (event : SyslogEvent) (hsuspended : m.suspended = true) :
      Transition m (.syslog now event)
        { m with recentEvents := m.recentEvents ++ m.alertEngine.processSyslogEvent now event }
        ((m.alertEngine.processSyslogEvent now event).map .dispatched)

theorem transition_of_step {m m' : LocalMonitor} {e : MonitorEvent} {out : List MonitorOutput}
    (h : step m e = some (m', out)) : Transition m e m' out := by
  cases e with
  | startPoll =>
      cases hpos : m.position with
      | sleeping =>
          simp only [step, hpos] at h
          cases h
          exact .startPoll hpos
      | _ => simp [step, hpos] at h
  | polled input =>
      cases hpos : m.position with
      | polling interval =>
          simp only [step, hpos] at h
          cases h
          exact .polled input interval hpos
      | _ => simp [step, hpos] at h
  | process now =>
      cases hpos : m.position with
      | processing interval allStates states =>
          cases states with
          | nil => simp [step, hpos] at h
          | cons state remaining =>
              simp only [step, hpos] at h
              cases h
              exact .process now hpos
      | _ => simp [step, hpos] at h
  | finish =>
      cases hpos : m.position with
      | processing interval allStates states =>
          cases states with
          | nil =>
              simp only [step, hpos] at h
              cases h
              exact .finish hpos
          | cons state remaining => simp [step, hpos] at h
      | _ => simp [step, hpos] at h
  | sendDone reply =>
      cases hpos : m.position with
      | sending interval allStates remaining alert later =>
          cases hresult : m.telegram.sendAlert alert reply with
          | returned ok =>
              simp only [step, hpos, hresult] at h
              cases h
              exact .sendReturned reply ok hpos hresult
          | raised =>
              simp only [step, hpos, hresult] at h
              cases h
              exact .sendRaised reply hpos hresult
      | _ => simp [step, hpos] at h
  | heartbeat now =>
      simp only [step, Option.ite_none_right_eq_some] at h
      obtain ⟨hsuspended, heq⟩ := h
      cases heq
      exact .heartbeat now hsuspended
  | syslog now event =>
      simp only [step, Option.ite_none_right_eq_some] at h
      obtain ⟨hsuspended, heq⟩ := h
      cases heq
      exact .syslog now event hsuspended

end LocalMonitor

end WanRouter
