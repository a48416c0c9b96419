import Mathlib.Data.List.Induction
import WanRouter.Lib.Mealy
import WanRouter.Shared.TextParts

/-!
# The DNS monitor

The model of `DnsMonitor` in `remote/dns_monitor.py`.  A check reads the clock and
resolves the hostname once; the reading and what `resolve_hostname` gave are its
arguments.  The alerts are then read off the history of the results.
-/

namespace WanRouter

/-- What an alert of the monitor tells. -/
inductive DnsFinding where
  | failed (failures : ℕ) (lastKnown : Option String)
  | changed (previousIp currentIp : String)
  | mismatch (currentIp expectedIp : String)
  deriving DecidableEq

-- `ip or 'none'`: an empty text reads as no address.
def knownIp (ip : Option String) : String := (ip.filter (· ≠ "")).getD "none"

def DnsFinding.alert (hostname : String) (now : ℤ) : DnsFinding → AlertEvent
  | .failed failures lastKnown =>
      { severity := .warning
        category := "dns"
        title := "DNS resolution failed for " ++ hostname
        message := "\n".intercalate
          ["Failed to resolve " ++ hostname, "Consecutive failures: " ++ toString failures,
            "Last known IP: " ++ knownIp lastKnown]
        timestamp := now }
  | .changed previousIp currentIp =>
      { severity := .warning
        category := "dns"
        title := "DNS record changed for " ++ hostname
        message := "\n".intercalate
          ["IP changed: " ++ previousIp ++ " → " ++ currentIp, "Time: " ++ strftimeUtc now]
        timestamp := now }
  | .mismatch currentIp expectedIp =>
      { severity := .critical
        category := "dns"
        title := "DNS mismatch for " ++ hostname
        message := "\n".intercalate
          ["Current IP: " ++ currentIp, "Expected IP: " ++ expectedIp,
            "Time: " ++ strftimeUtc now]
        timestamp := now }

structure DnsMonitor where
  hostname : String
  expectedIp : String := ""
  lastSeenIp : Option String := none
  consecutiveFailures : ℕ := 0
  deriving DecidableEq

/-- One check: its clock reading and what `resolve_hostname` gave. -/
structure DnsCheck where
  now : ℤ
  currentIp : Option String
  deriving DecidableEq

namespace DnsMonitor

def check (self : DnsMonitor) (c : DnsCheck) : DnsMonitor × List AlertEvent :=
  match c.currentIp with
  | none =>
      let failures := self.consecutiveFailures + 1
      ({ self with consecutiveFailures := failures },
        if 2 ≤ failures then
          [(DnsFinding.failed failures self.lastSeenIp).alert self.hostname c.now]
        else [])
  | some currentIp =>
      let changed :=
        match self.lastSeenIp with
        | some previousIp =>
            if currentIp ≠ previousIp then
              [(DnsFinding.changed previousIp currentIp).alert self.hostname c.now]
            else []
        | none => []
      let mismatch :=
        if self.expectedIp ≠ "" ∧ currentIp ≠ self.expectedIp then
          [(DnsFinding.mismatch currentIp self.expectedIp).alert self.hostname c.now]
        else []
      ({ self with consecutiveFailures := 0, lastSeenIp := some currentIp },
        changed ++ mismatch)

/-! ## The history of the results -/

/-- The latest address, whatever failures came after it. -/
def latestAddress (results : List (Option String)) : Option String :=
  (results.filterMap id).getLast?

variable (self : DnsMonitor) (checks : List DnsCheck)

@[simp] theorem check_hostname (c : DnsCheck) : (self.check c).1.hostname = self.hostname := by
  cases hip : c.currentIp <;> simp [check, hip]

theorem check_lastSeenIp (c : DnsCheck) :
    (self.check c).1.lastSeenIp = c.currentIp.or self.lastSeenIp := by
  cases hip : c.currentIp <;> simp [check, hip]

theorem run_lastSeenIp (h : self.lastSeenIp = none) :
    (Mealy.run check self checks).lastSeenIp =
      latestAddress (checks.map DnsCheck.currentIp) := by
  rw [Mealy.run_lastWrite check lastSeenIp DnsCheck.currentIp check_lastSeenIp, h, Option.or_none,
    latestAddress, List.filterMap_map]
  rfl

/-- The title and the lines in which an alert tells a finding. -/
def Tells (hostname : String) (now : ℤ) : DnsFinding → AlertEvent → Prop
  | .failed failures lastKnown, alert =>
      alert.Reads ("DNS resolution failed for " ++ hostname)
        ["Failed to resolve " ++ hostname, "Consecutive failures: " ++ toString failures,
          "Last known IP: " ++ knownIp lastKnown]
  | .changed previousIp currentIp, alert =>
      alert.Reads ("DNS record changed for " ++ hostname)
        ["IP changed: " ++ previousIp ++ " → " ++ currentIp, "Time: " ++ strftimeUtc now]
  | .mismatch currentIp expectedIp, alert =>
      alert.Reads ("DNS mismatch for " ++ hostname)
        ["Current IP: " ++ currentIp, "Expected IP: " ++ expectedIp, "Time: " ++ strftimeUtc now]

example :
    ((Mealy.run check { hostname := "example.duckdns.org" }
      [⟨0, some "1.2.3.4"⟩, ⟨1, none⟩]).check ⟨2, none⟩).2.map AlertEvent.title =
      ["DNS resolution failed for example.duckdns.org"] := by decide

end DnsMonitor

end WanRouter
