import WanRouter.Lib.OrderedDict
import Mathlib.Data.Int.Notation

/-!
# Configuration

The sections of `shared/config.py` that the modelled components read.  A
`PollingConfig` carries the bound that its validator enforces.
-/

namespace WanRouter

open OrderedDict

structure RouterConfig where
  host : String
  name : String := "router"
  wanGateways : Dict String String := ∅
  wanInterfaces : Dict String ℤ := ∅
  deriving DecidableEq

structure PollingConfig where
  normalInterval : ℤ := 60
  alertInterval : ℤ := 15
  recoveryThreshold : ℤ := 5
  normalInterval_ge : 10 ≤ normalInterval := by decide
  alertInterval_ge : 10 ≤ alertInterval := by decide

namespace PollingConfig

def validateInterval (v : ℤ) : Except String {v : ℤ // 10 ≤ v} :=
  if h : v < 10 then .error "Interval must be at least 10 seconds"
  else .ok ⟨v, Int.not_lt.mp h⟩

def parse (normalInterval alertInterval recoveryThreshold : ℤ) :
    Except String PollingConfig := do
  let normal ← validateInterval normalInterval
  let alert ← validateInterval alertInterval
  return ⟨normal.1, alert.1, recoveryThreshold, normal.2, alert.2⟩

end PollingConfig

structure LocalHeartbeatConfig where
  interval : ℤ := 60
  deriving DecidableEq

structure LocalConfig where
  router : RouterConfig
  polling : PollingConfig := {}
  heartbeat : LocalHeartbeatConfig := {}

structure RemoteHeartbeatConfig where
  expectedInterval : ℤ := 60
  missedThreshold : ℤ := 3
  deriving DecidableEq

structure ExternalProbeConfig where
  enabled : Bool := false
  targetIp : String := ""
  deriving DecidableEq

structure DnsMonitorConfig where
  enabled : Bool := false
  hostname : String := ""
  expectedIp : String := ""
  interval : ℤ := 300
  deriving DecidableEq

structure RemoteConfig where
  heartbeat : RemoteHeartbeatConfig := {}
  externalProbe : ExternalProbeConfig := {}
  dnsMonitor : DnsMonitorConfig := {}
  deriving DecidableEq

end WanRouter
