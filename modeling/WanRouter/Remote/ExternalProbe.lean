import WanRouter.Remote.Sentinel

/-!
# The external probe

The model of `remote/external_probe.py`, and the monitor loop that awaits it.  The
probe catches whatever its requests raise, so it always answers.
-/

namespace WanRouter

/-- The HTTP request of a probe. -/
inductive HttpAttempt where
  | responded (statusCode : ℕ)
  | httpError
  | raised (error : String)
  deriving DecidableEq

/-- One TCP connection of a probe, opened and closed again. -/
inductive TcpAttempt where
  | closed
  | openRaised
  | closeRaised
  deriving DecidableEq

structure ProbeAttempts where
  http : HttpAttempt
  tcp : ℕ → TcpAttempt

structure ExternalProbe where
  targetIp : String
  enabled : Bool

namespace ExternalProbe

def init (targetIp : String) (enabled : Bool) : ExternalProbe where
  targetIp := targetIp
  enabled := enabled && targetIp ≠ ""

def ports : List ℕ := [80, 443, 22]

/-- The TCP fallback; any exception moves on to the next port. -/
def tryPorts (tcp : ℕ → TcpAttempt) : List ℕ → ProbeResult
  | [] => .unreachable
  | port :: later => if tcp port = .closed then .reachable else tryPorts tcp later

def check (self : ExternalProbe) (attempts : ProbeAttempts) : ProbeResult :=
  if !self.enabled then .disabled
  else
    match attempts.http with
    | .responded _ => .reachable
    | .httpError => tryPorts attempts.tcp ports
    | .raised _ => tryPorts attempts.tcp ports

end ExternalProbe

/-- The events of the sentinel with its own probe. -/
inductive WatchEvent where
  | record (now : ℤ) (payload : HeartbeatPayload)
  | evaluate (now now' now'' : ℤ)
  | probe (attempts : ProbeAttempts) (now now' : ℤ)
  | sent (reply : BotReply)

namespace WatchEvent

def event (probe : ExternalProbe) : WatchEvent → SentinelEvent
  | .record now payload => .record now payload
  | .evaluate now now' now'' => .evaluate now now' now''
  | .probe attempts now now' => .probed (probe.check attempts) now now'
  | .sent reply => .sent reply

end WatchEvent

/-- The loop with its probe. -/
def RemoteSentinel.watchStep (probe : ExternalProbe) (s : RemoteSentinel) (e : WatchEvent) :
    Option (RemoteSentinel × List AlertEvent) := s.step (e.event probe)

end WanRouter
