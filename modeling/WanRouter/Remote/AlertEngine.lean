import WanRouter.Shared.Telegram

/-!
# The remote alert engine

The model of `remote/alert_engine.py` and of the results of the external probe.
Each function reads the clock once, as its argument `now`.
-/

namespace WanRouter

open OrderedDict

inductive ProbeResult where
  | reachable
  | unreachable
  | disabled
  deriving DecidableEq

namespace RemoteAlertEngine

def wanSummary (wanStates : Dict String WANState) : String :=
  let summary := " | ".intercalate (wanStates.items.map fun p ↦
    p.1 ++ ": " ++ p.2.status.value.toUpper)
  if summary = "" then "No data" else summary

def probeStatus : ProbeResult → String
  | .unreachable => "FAILED"
  | .reachable => "SUCCESS"
  | .disabled => "N/A"

def diagnosis : ProbeResult → String
  | .unreachable => "Internet connection likely down"
  | .reachable => "Local monitor may have crashed"
  | .disabled => "Unable to determine"

def lostTitle : String := "CONNECTION LOST TO LOCAL MONITOR"

def recoveredTitle : String := "LOCAL MONITOR RECOVERED"

def createMonitorLostAlert (now lastHeartbeat : ℤ) (wanStates : Dict String WANState)
    (probeResult : ProbeResult) : AlertEvent where
  severity := .critical
  category := "monitor"
  title := lostTitle
  message :=
    "Last heartbeat: " ++ formatDuration (totalSeconds (now - lastHeartbeat)) ++ " ago\n" ++
    "Last known state:\n  " ++ wanSummary wanStates ++ "\n" ++
    "External probe: " ++ probeStatus probeResult ++ "\n" ++
    "Diagnosis: " ++ diagnosis probeResult
  timestamp := now

def createMonitorRecoveredAlert (now : ℤ) : AlertEvent where
  severity := .info
  category := "monitor"
  title := recoveredTitle
  message := "Heartbeat received. Local monitor is back online."
  timestamp := now

end RemoteAlertEngine

end WanRouter
