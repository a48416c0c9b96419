import Mathlib.Data.Finset.Basic
import WanRouter.Local.SnmpPoller

/-!
# The mock poller

The model of `MockSNMPPoller` in `local/snmp_poller.py`, which stands in for the
real poller with `--mock-snmp`.  A call that raises leaves the poller as it was.
-/

namespace WanRouter

open OrderedDict SNMPPoller

structure MockSNMPPoller where
  wanGateways : Dict String String
  wanInterfaces : Dict String ℤ := ∅
  activeWan : String := "WAN1"
  lastStates : Dict String WANState := ∅
  linksDown : Finset String := ∅

namespace MockSNMPPoller

def defaultGateways : Dict String String :=
  ⟨[("WAN1", "192.168.1.254"), ("WAN2", "192.168.1.1")], by decide⟩

/-- An empty map is falsy, so it is replaced by the default like an absent one. -/
def init (wanGateways : Option (Dict String String)) (wanInterfaces : Option (Dict String ℤ)) :
    MockSNMPPoller where
  wanGateways :=
    match wanGateways with
    | some gateways => if gateways.items = [] then defaultGateways else gateways
    | none => defaultGateways
  wanInterfaces := wanInterfaces.getD ∅

def unknownWan (wanName : String) : String := "Unknown WAN: " ++ wanName

def setActiveWan (self : MockSNMPPoller) (wanName : String) : Except String MockSNMPPoller :=
  if wanName ∉ self.wanGateways.keys then .error (unknownWan wanName)
  else .ok { self with activeWan := wanName }

def setLinkDown (self : MockSNMPPoller) (wanName : String) : Except String MockSNMPPoller :=
  if wanName ∉ self.wanGateways.keys then .error (unknownWan wanName)
  else .ok { self with linksDown := insert wanName self.linksDown }

def setLinkUp (self : MockSNMPPoller) (wanName : String) : MockSNMPPoller :=
  { self with linksDown := self.linksDown.erase wanName }

def wanState (self : MockSNMPPoller) (now : ℤ) (name : String) : WANState :=
  let status : InterfaceStatus := if name = self.activeWan then .up else .down
  { interface := name
    status := status
    since := carriedSince self.lastStates name status now
    linkUp := if self.wanInterfaces.items ≠ [] then some (name ∉ self.linksDown) else none }

def states (self : MockSNMPPoller) (now : ℤ) : Dict String WANState :=
  self.wanGateways.mapItems fun name _gateway ↦ self.wanState now name

def poll (self : MockSNMPPoller) (now : ℤ) : MockSNMPPoller × Dict String WANState :=
  ({ self with lastStates := self.states now }, self.states now)

/-! ## Runs -/

inductive Call where
  | setActiveWan (wanName : String)
  | setLinkDown (wanName : String)
  | setLinkUp (wanName : String)
  | poll (now : ℤ)
  deriving DecidableEq

inductive Answer where
  | done
  | raised (error : String)
  | polled (now : ℤ) (states : Dict String WANState)
  deriving DecidableEq

def attempt (self : MockSNMPPoller) : Except String MockSNMPPoller → MockSNMPPoller × Answer
  | .ok changed => (changed, .done)
  | .error error => (self, .raised error)

def call (self : MockSNMPPoller) : Call → MockSNMPPoller × Answer
  | .setActiveWan wanName => self.attempt (self.setActiveWan wanName)
  | .setLinkDown wanName => self.attempt (self.setLinkDown wanName)
  | .setLinkUp wanName => (self.setLinkUp wanName, .done)
  | .poll now => ((self.poll now).1, .polled now (self.poll now).2)

/-- Only a poll replaces the states of the last poll, and no call changes the map. -/
theorem call_frame (self : MockSNMPPoller) (c : Call) :
    (self.call c).1.wanGateways = self.wanGateways ∧
      ((∀ now, c ≠ .poll now) → (self.call c).1.lastStates = self.lastStates ∧
        ∀ now states, (self.call c).2 ≠ .polled now states) := by
  cases c with
  | setActiveWan wanName =>
      by_cases h : wanName ∈ self.wanGateways.keys <;> simp [call, attempt, setActiveWan, h]
  | setLinkDown wanName =>
      by_cases h : wanName ∈ self.wanGateways.keys <;> simp [call, attempt, setLinkDown, h]
  | setLinkUp wanName => simp [call, setLinkUp]
  | poll now => simp [call, poll]

end MockSNMPPoller

end WanRouter
