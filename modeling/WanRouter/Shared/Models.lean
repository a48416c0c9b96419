import WanRouter.Lib.OrderedDict
import Mathlib.Data.Int.Notation

/-!
# Data models

The records of `shared/models.py`.  Every `datetime` field is an integer clock
reading in microseconds.
-/

namespace WanRouter

open OrderedDict

inductive InterfaceStatus where
  | up
  | down
  | unknown
  deriving DecidableEq

/-- The string value of the `StrEnum` member. -/
def InterfaceStatus.value : InterfaceStatus → String
  | .up => "up"
  | .down => "down"
  | .unknown => "unknown"

inductive AlertSeverity where
  | info
  | warning
  | critical
  deriving DecidableEq

/-- Current state of a WAN interface. -/
structure WANState where
  interface : String
  status : InterfaceStatus
  since : ℤ
  linkUp : Option Bool := none
  deriving DecidableEq

/-- An alert event to be sent or logged. -/
structure AlertEvent where
  severity : AlertSeverity
  category : String
  title : String
  message : String
  timestamp : ℤ
  metadata : Dict String String := ∅
  deriving DecidableEq

/-- Payload sent from the local monitor to the remote sentinel. -/
structure HeartbeatPayload where
  timestamp : ℤ
  wanStates : Dict String WANState
  recentEvents : List AlertEvent
  monitorVersion : String := "0.1.0"
  deriving DecidableEq

/-- Parsed syslog event from the router. -/
structure SyslogEvent where
  timestamp : ℤ
  facility : String
  severity : String
  hostname : String
  message : String
  category : String := "system"
  raw : String := ""
  metadata : Dict String String := ∅
  deriving DecidableEq

end WanRouter
