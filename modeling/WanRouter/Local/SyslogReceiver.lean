import WanRouter.Lib.Mealy
import WanRouter.Shared.Models
import WanRouter.Shared.Strptime
import Mathlib.Data.List.Infix

/-!
# The syslog receiver

The model of `local/syslog_receiver.py`.  A datagram comes with the text it
decodes to, the readings of the clock while it is parsed and what each callback
does with the event.
-/

namespace WanRouter

open OrderedDict Backtracking Pattern CivilCalendar

/-- What `.` matches. -/
def dot (c : Char) : Bool := c ≠ '\n'

section Parsing

variable (u : UnicodeData)

/-- `\w+\s+\d+\s+\d+:\d+:\d+`. -/
def timestampPattern : Pattern Char :=
  concat [oneOrMore u.isWord, oneOrMore u.isSpace, oneOrMore u.isDigit, oneOrMore u.isSpace,
    oneOrMore u.isDigit, literal [':'], oneOrMore u.isDigit, literal [':'], oneOrMore u.isDigit]

/-- `<PRI>TIMESTAMP HOSTNAME TAG: MESSAGE`. -/
def syslogPattern : Pattern Char :=
  concat [literal ['<'], group (oneOrMore u.isDigit), literal ['>'], group (timestampPattern u),
    oneOrMore u.isSpace, group (oneOrMore fun c ↦ !u.isSpace c), oneOrMore u.isSpace,
    group (oneOrMoreLazy dot), literal [':'], zeroOrMore u.isSpace, group (zeroOrMore dot)]

/-- `head(.+?)tail`. -/
def bracketPattern (head : String) (tail : List (Pattern Char)) : Pattern Char :=
  concat (literal head.toList :: group (oneOrMoreLazy dot) :: tail)

/-- Checked before the generic keywords. -/
def wanPatterns : List (Pattern Char × String) :=
  [(bracketPattern "Backup [" [literal "] took effect".toList], "failover_activated"),
    (bracketPattern "Backup [" [literal "] was down".toList], "failover_deactivated"),
    (bracketPattern "physical connection status of [" [literal "] was down".toList],
      "link_down"),
    (bracketPattern "online detection result of ["
      [literal "] was ".toList, oneOf [literal "online".toList, literal "offline".toList]],
      "online_detection")]

def authKeywords : List String := ["login", "logout", "password", "authentication", "user", "admin"]

def firewallKeywords : List String := ["blocked", "dropped", "denied", "firewall", "reject"]

def vpnKeywords : List String := ["ipsec", "vpn", "tunnel", "openvpn", "l2tp", "pptp"]

def systemKeywords : List String :=
  ["reboot", "startup", "shutdown", "config", "firmware", "update"]

/-- The first WAN pattern that is found, with the text of its group. -/
def wanEvent? (message : List Char) : Option (String × List Char) :=
  wanPatterns.findSome? fun p ↦ (p.1.search message).map fun m ↦ (p.2, m.groups.headD [])

def keywordCategory (message : List Char) : String :=
  let mentions (keywords : List String) : Bool :=
    keywords.any fun keyword ↦ keyword.toList <:+: u.lower message
  if mentions authKeywords then "auth"
  else if mentions firewallKeywords then "firewall"
  else if mentions vpnKeywords then "vpn"
  else if mentions systemKeywords then "system"
  else "system"

def wanMetadata (eventType wanInterface : String) : Dict String String :=
  ((∅ : Dict String String).set "wan_event_type" eventType).set "wan_interface" wanInterface

def categorizeMessage (message : String) : String × Dict String String :=
  match wanEvent? message.toList with
  | some (eventType, wanInterface) =>
      ("wan", wanMetadata eventType (String.ofList wanInterface))
  | none => (keywordCategory u message.toList, ∅)

def severityNames : List String :=
  ["emerg", "alert", "crit", "err", "warning", "notice", "info", "debug"]

def yearOf (now : ℤ) : ℤ := (civilOfDays (now / microsPerSecond / 86400)).year

/-- The year is the current one; a text that makes no date then is replaced by the
time `later` of a second reading of the clock. -/
def parseTimestamp (now later : ℤ) (timestamp : List Char) : ℤ :=
  (Strptime.strptime u ((toString (yearOf now)).toList ++ ' ' :: timestamp)).getD later

def parseSyslogMessage (now later : ℤ) (raw : String) : Except String (Option SyslogEvent) :=
  match (syslogPattern u).first (u.strip raw.toList) with
  | some ⟨_, [priority, timestamp, hostname, facility, message], _⟩ =>
      (u.int priority).map fun pri ↦
        let category := categorizeMessage u (String.ofList message)
        some {
          timestamp := parseTimestamp u now later timestamp
          facility := String.ofList facility
          severity := severityNames.getD (pri % 8) "unknown"
          hostname := String.ofList hostname
          message := String.ofList message
          category := category.1
          raw := raw
          metadata := category.2 }
  | _ => .ok none

end Parsing

/-! ## Dispatch -/

/-- What a callback does with an event: how often it calls `reset_count`, and the
exception it then raises. -/
structure Reaction where
  resets : ℕ := 0
  raised : Option String := none

structure Datagram where
  text : String
  addr : String × ℕ
  now : ℤ
  later : ℤ
  reaction : ℕ → Reaction

inductive ReceiverEvent where
  | datagramReceived (d : Datagram)
  | resetCount

inductive ReceiverOutput (κ : Type*) where
  | delivered (callback : κ) (event : SyslogEvent)
  | count (n : ℕ)
  | error (text : String)

structure SyslogReceiver (κ : Type*) where
  callbacks : List κ := []
  messageCount : ℕ := 0

namespace SyslogReceiver

variable {κ : Type*}

def addCallback (self : SyslogReceiver κ) (callback : κ) : SyslogReceiver κ :=
  { self with callbacks := self.callbacks ++ [callback] }

def resetCount (self : SyslogReceiver κ) : SyslogReceiver κ × ℕ :=
  ({ self with messageCount := 0 }, self.messageCount)

def resetTimes (self : SyslogReceiver κ) : ℕ → SyslogReceiver κ × List (ReceiverOutput κ)
  | 0 => (self, [])
  | n + 1 =>
      let (self', count) := self.resetCount
      let (self'', out) := self'.resetTimes n
      (self'', .count count :: out)

/-- The loop over the callbacks, where an exception ends one call only. -/
def callEach (event : SyslogEvent) (self : SyslogReceiver κ) (reaction : ℕ → Reaction) :
    List κ → SyslogReceiver κ × List (ReceiverOutput κ)
  | [] => (self, [])
  | callback :: callbacks =>
      let (self', counts) := self.resetTimes (reaction 0).resets
      let errors := (reaction 0).raised.toList.map fun e ↦ .error ("Callback error: " ++ e)
      let (self'', out) := self'.callEach event (fun i ↦ reaction (i + 1)) callbacks
      (self'', .delivered callback event :: (counts ++ errors ++ out))

def onEvent (self : SyslogReceiver κ) (event : SyslogEvent) (reaction : ℕ → Reaction) :
    SyslogReceiver κ × List (ReceiverOutput κ) :=
  let self' := { self with messageCount := self.messageCount + 1 }
  self'.callEach event reaction self'.callbacks

/-- `f"{addr}"`, for an address text without quotes or backslashes. -/
def showAddr (addr : String × ℕ) : String := "('" ++ addr.1 ++ "', " ++ toString addr.2 ++ ")"

/-- `SyslogProtocol.datagram_received` with `_on_event` as the callback. -/
def datagramReceived (u : UnicodeData) (self : SyslogReceiver κ) (d : Datagram) :
    SyslogReceiver κ × List (ReceiverOutput κ) :=
  match parseSyslogMessage u d.now d.later d.text with
  | .ok (some event) => self.onEvent event d.reaction
  | .ok none => (self, [])
  | .error e => (self, [.error ("Error processing syslog from " ++ showAddr d.addr ++ ": " ++ e)])

def step (u : UnicodeData) (self : SyslogReceiver κ) :
    ReceiverEvent → SyslogReceiver κ × List (ReceiverOutput κ)
  | .datagramReceived d => self.datagramReceived u d
  | .resetCount => (self.resetCount.1, [.count self.resetCount.2])

end SyslogReceiver

end WanRouter
