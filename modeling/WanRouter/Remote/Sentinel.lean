import WanRouter.Lib.Machine
import WanRouter.Remote.AlertEngine
import WanRouter.Remote.HeartbeatStore

/-!
# The monitor loop of the remote sentinel

The model of `RemoteSentinel._monitor_loop` in `remote/main.py`.  The loop is
suspended while it sleeps, probes or sends, and `record` may run whenever it is
suspended.  Every event carries the clock readings and the answers that its step
receives, and the outputs are the alerts handed to `telegram.send_alert`.
-/

namespace WanRouter

open OrderedDict HeartbeatStore RemoteAlertEngine

/-- Where the loop is suspended.  It starts like a loop whose sleep is over. -/
inductive MonitorPosition where
  | sleeping
  | probing
  | sendingLost (alert : AlertEvent)
  | sendingRecovered (alert : AlertEvent)
  deriving DecidableEq

structure RemoteSentinel where
  store : HeartbeatStore
  telegram : TelegramNotifier
  wasMissing : Bool := false
  position : MonitorPosition := .sleeping
  deriving DecidableEq

inductive SentinelEvent where
  | record (now : ℤ) (payload : HeartbeatPayload)
  /-- The readings of `should_alert_missing`, of `is_missing` and of the RECOVERED alert. -/
  | evaluate (now now' now'' : ℤ)
  /-- The reading that replaces a heartbeat never received, and that of the LOST alert. -/
  | probed (result : ProbeResult) (now now' : ℤ)
  | probeRaised
  | sent (reply : BotReply)
  deriving DecidableEq

namespace RemoteSentinel

def init (config : RemoteHeartbeatConfig) (telegram : TelegramNotifier) : RemoteSentinel :=
  { store := ofConfig config, telegram := telegram }

def lostAlert (self : RemoteSentinel) (result : ProbeResult) (now now' : ℤ) : AlertEvent :=
  createMonitorLostAlert now' (self.store.lastHeartbeat.getD now) self.store.getLastWanStates
    result

/-- The start of an iteration, up to its first suspension. -/
def evaluate (self : RemoteSentinel) (now now' now'' : ℤ) : RemoteSentinel × List AlertEvent :=
  let decided := self.store.shouldAlertMissing now
  if decided.2 then ({ self with store := decided.1, position := .probing }, [])
  else if self.wasMissing && !self.store.isMissing now' then
    let alert := createMonitorRecoveredAlert now''
    ({ self with position := .sendingRecovered alert }, [alert])
  else (self, [])

/-- The end of an iteration that sends: an exception skips the assignment. -/
def finishSend (self : RemoteSentinel) (missing : Bool) (result : SendResult) :
    RemoteSentinel :=
  match result with
  | .returned _ => { self with wasMissing := missing, position := .sleeping }
  | .raised => { self with position := .sleeping }

def step (self : RemoteSentinel) : SentinelEvent → Option (RemoteSentinel × List AlertEvent)
  | .record now payload => some ({ self with store := self.store.record now payload }, [])
  | .evaluate now now' now'' =>
      match self.position with
      | .sleeping => some (self.evaluate now now' now'')
      | _ => none
  | .probed result now now' =>
      match self.position with
      | .probing =>
          let alert := self.lostAlert result now now'
          some ({ self with position := .sendingLost alert }, [alert])
      | _ => none
  | .probeRaised =>
      match self.position with
      | .probing => some ({ self with position := .sleeping }, [])
      | _ => none
  | .sent reply =>
      match self.position with
      | .sendingLost alert =>
          some (self.finishSend true (self.telegram.sendAlert alert reply), [])
      | .sendingRecovered alert =>
          some (self.finishSend false (self.telegram.sendAlert alert reply), [])
      | _ => none

/-! ## What a step can do -/

inductive Transition (s : RemoteSentinel) :
    SentinelEvent → RemoteSentinel → List AlertEvent → Prop
  | record (now : ℤ) (payload : HeartbeatPayload) :
      Transition s (.record now payload) { s with store := s.store.record now payload } []
  | decideLost (now now' now'' : ℤ) (hpos : s.position = .sleeping)
      (hmissing : s.store.isMissing now = true) (halerted : s.store.alertedMissing = false) :
      Transition s (.evaluate now now' now'')
        { s with store := { s.store with alertedMissing := true }, position := .probing } []
  | handRecovered (now now' now'' : ℤ) (hpos : s.position = .sleeping)
      (hquiet : s.store.isMissing now = false ∨ s.store.alertedMissing = true)
      (hwas : s.wasMissing = true) (hmissing : s.store.isMissing now' = false) :
      Transition s (.evaluate now now' now'')
        { s with position := .sendingRecovered (createMonitorRecoveredAlert now'') }
        [createMonitorRecoveredAlert now'']
  | idle (now now' now'' : ℤ) (hpos : s.position = .sleeping)
      (hquiet : s.store.isMissing now = false ∨ s.store.alertedMissing = true)
      (hidle : s.wasMissing = false ∨ s.store.isMissing now' = true) :
      Transition s (.evaluate now now' now'') s []
  | handLost (result : ProbeResult) (now now' : ℤ) (hpos : s.position = .probing) :
      Transition s (.probed result now now')
        { s with position := .sendingLost (s.lostAlert result now now') }
        [s.lostAlert result now now']
  | probeRaised (hpos : s.position = .probing) :
      Transition s .probeRaised { s with position := .sleeping } []
  | sentLost (alert : AlertEvent) (reply : BotReply) (hpos : s.position = .sendingLost alert) :
      Transition s (.sent reply) (s.finishSend true (s.telegram.sendAlert alert reply)) []
  | sentRecovered (alert : AlertEvent) (reply : BotReply)
      (hpos : s.position = .sendingRecovered alert) :
      Transition s (.sent reply) (s.finishSend false (s.telegram.sendAlert alert reply)) []

variable {s t : RemoteSentinel} {e : SentinelEvent} {out : List AlertEvent}

theorem evaluate_transition (now now' now'' : ℤ) (hpos : s.position = .sleeping) :
    Transition s (.evaluate now now' now'') (s.evaluate now now' now'').1
      (s.evaluate now now' now'').2 := by
  rcases s.store.shouldAlertMissing_cases now with ⟨hmissing, halerted, h⟩ | ⟨hquiet, h⟩
  · simpa [evaluate, h] using Transition.decideLost now now' now'' hpos hmissing halerted
  · cases hwas : s.wasMissing with
    | false =>
        simpa [evaluate, h, hwas] using Transition.idle now now' now'' hpos hquiet (Or.inl hwas)
    | true =>
        cases hmissing : s.store.isMissing now' with
        | true =>
            simpa [evaluate, h, hwas, hmissing] using
              Transition.idle now now' now'' hpos hquiet (Or.inr hmissing)
        | false =>
            simpa [evaluate, h, hwas, hmissing] using
              Transition.handRecovered now now' now'' hpos hquiet hwas hmissing

theorem transition_of_step (h : step s e = some (t, out)) : Transition s e t out := by
  cases e with
  | record now payload =>
      cases h
      exact .record now payload
  | evaluate now now' now'' =>
      cases hpos : s.position with
      | sleeping =>
          have heval := evaluate_transition now now' now'' hpos
          simp only [step, hpos, Option.some.injEq] at h
          rwa [h] at heval
      | _ => simp [step, hpos] at h
  | probed result now now' =>
      cases hpos : s.position with
      | probing =>
          simp only [step, hpos] at h
          cases h
          exact .handLost result now now' hpos
      | _ => simp [step, hpos] at h
  | probeRaised =>
      cases hpos : s.position with
      | probing =>
          simp only [step, hpos] at h
          cases h
          exact .probeRaised hpos
      | _ => simp [step, hpos] at h
  | sent reply =>
      cases hpos : s.position with
      | sendingLost alert =>
          simp only [step, hpos] at h
          cases h
          exact .sentLost alert reply hpos
      | sendingRecovered alert =>
          simp only [step, hpos] at h
          cases h
          exact .sentRecovered alert reply hpos
      | _ => simp [step, hpos] at h

@[simp] theorem finishSend_store (s : RemoteSentinel) (missing : Bool) (result : SendResult) :
    (s.finishSend missing result).store = s.store := by
  cases result <;> rfl

@[simp] theorem finishSend_telegram (s : RemoteSentinel) (missing : Bool)
    (result : SendResult) : (s.finishSend missing result).telegram = s.telegram := by
  cases result <;> rfl

end RemoteSentinel

end WanRouter
