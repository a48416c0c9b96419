import WanRouter.Shared.Clock
import WanRouter.Shared.Models
import WanRouter.Shared.PythonText

/-!
# The Telegram client

`formatDuration` receives the whole seconds that the source obtains with
`int(seconds)`.  It is the text of the call `formatDurationCall`, which raises when a
number has too many digits for a text.  What the bot does with a message is the
environment's choice: `sendMessage` turns it into the boolean that `send_message`
returns, and only an error that is not a `TelegramError` leaves the function as an
exception.
-/

namespace WanRouter

open UnicodeData in
/-- `if condition: parts.append(...)` for an amount and the letter of its unit. -/
def appendPart (condition : Prop) [Decidable condition] (parts : List String) (amount : ℤ)
    (letter : String) : Except String (List String) :=
  if condition then do return parts ++ [(← str amount) ++ letter] else return parts

/-- `format_duration(seconds)` with the `ValueError` of the conversions. -/
def formatDurationCall (seconds : ℤ) : Except String String := do
  let days := seconds / 86400
  let remainder := seconds % 86400
  let hours := remainder / 3600
  let remainder := remainder % 3600
  let minutes := remainder / 60
  let secs := remainder % 60
  let parts ← appendPart (days ≠ 0) [] days "d"
  let parts ← appendPart (hours ≠ 0) parts hours "h"
  let parts ← appendPart (minutes ≠ 0) parts minutes "m"
  let parts ← appendPart (secs ≠ 0 ∨ parts = []) parts secs "s"
  return " ".intercalate parts

def formatDuration (seconds : ℤ) : String :=
  let days := seconds / 86400
  let remainder := seconds % 86400
  let hours := remainder / 3600
  let remainder := remainder % 3600
  let minutes := remainder / 60
  let secs := remainder % 60
  let parts : List String := []
  let parts := if days ≠ 0 then parts ++ [toString days ++ "d"] else parts
  let parts := if hours ≠ 0 then parts ++ [toString hours ++ "h"] else parts
  let parts := if minutes ≠ 0 then parts ++ [toString minutes ++ "m"] else parts
  let parts := if secs ≠ 0 ∨ parts = [] then parts ++ [toString secs ++ "s"] else parts
  " ".intercalate parts

/-- The outcome of `self._bot.send_message(...)`. -/
inductive BotReply where
  | delivered
  | telegramError
  | otherError
  deriving DecidableEq

/-- A call returned this boolean, or it raised an exception. -/
inductive SendResult where
  | returned (ok : Bool)
  | raised
  deriving DecidableEq

structure TelegramNotifier where
  mockMode : Bool := false
  /-- Whether a bot was created, that is, a token was configured. -/
  hasBot : Bool := true
  deriving DecidableEq

namespace TelegramNotifier

def sendMessage (self : TelegramNotifier) (_text : String) (reply : BotReply) : SendResult :=
  if self.mockMode then .returned true
  else if !self.hasBot then .returned false
  else
    match reply with
    | .delivered => .returned true
    | .telegramError => .returned false
    | .otherError => .raised

def severityEmoji : AlertSeverity → String
  | .critical => "🔴"
  | .warning => "🟠"
  | .info => "🔵"

def alertText (event : AlertEvent) : String :=
  severityEmoji event.severity ++ " " ++ event.title ++ "\n\n" ++ event.message

def sendAlert (self : TelegramNotifier) (event : AlertEvent) (reply : BotReply) : SendResult :=
  self.sendMessage (alertText event) reply

end TelegramNotifier

end WanRouter
