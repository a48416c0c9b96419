import WanRouter.Shared.Telegram

/-!
# The local alert engine

The model of `local/alert_engine.py`.  Each call reads the clock once, so the
reading is an argument; `processWanState` returns the updated engine with the
alerts of the call.
-/

namespace WanRouter

open OrderedDict

structure AlertState where
  currentStatus : InterfaceStatus := .unknown
  lastAlertTime : Option ℤ := none
  lastStatusChange : Option ℤ := none
  consecutiveStable : ℕ := 0
  deriving DecidableEq

/-- On the first observation only a DOWN is alerted. -/
def AlertState.shouldAlert (self : AlertState) (newStatus : InterfaceStatus) : Bool :=
  if self.currentStatus = .unknown then newStatus = .down
  else newStatus ≠ self.currentStatus

/-- The bookkeeping of `process_wan_state` on the state of one interface. -/
def AlertState.observe (self : AlertState) (now : ℤ) (status : InterfaceStatus) : AlertState :=
  if self.shouldAlert status then
    { currentStatus := status
      lastAlertTime := some now
      lastStatusChange := some now
      consecutiveStable := 0 }
  else { self with consecutiveStable := self.consecutiveStable + 1 }

structure AlertEngine where
  routerIp : String := "192.168.0.1"
  routerName : String := "router"
  wanStates : Dict String AlertState := ∅
  previousWan : Dict String WANState := ∅
  deriving DecidableEq

namespace AlertEngine

/-! ## Alert texts -/

def failoverTarget (state : WANState) (allStates : Option (Dict String WANState)) :
    Option String :=
  ((allStates.getD ∅).items.find? fun p ↦
    p.2.status = .up ∧ p.1 ≠ state.interface).map Prod.fst

-- An empty name is falsy, so it reads as no target at all.
def failoverLine (target : Option String) : String :=
  match target with
  | some name =>
      if name = "" then "Failover: no active WAN detected" else "Failover: active on " ++ name
  | none => "Failover: no active WAN detected"

def linkLine : Option Bool → List String
  | some false => ["Cause: physical link down"]
  | some true => ["Cause: likely upstream/ISP issue (link up, no route)"]
  | none => []

/-- How long the previous state lasted, if it had the expected status. -/
def previousDuration (previous : Option WANState) (status : InterfaceStatus) (now : ℤ) :
    String :=
  match previous with
  | some p =>
      if p.status = status then formatDuration (totalSeconds (now - p.since)) else "unknown"
  | none => "unknown"

def routerLines (self : AlertEngine) (now : ℤ) : List String :=
  ["Router: " ++ self.routerName ++ " (" ++ self.routerIp ++ ")", "Time: " ++ strftimeUtc now]

def downAlert (self : AlertEngine) (now : ℤ) (state : WANState) (uptime : String)
    (target : Option String) : AlertEvent where
  severity := .critical
  category := "wan"
  title := state.interface ++ " DOWN"
  message := "\n".intercalate
    (self.routerLines now ++ ["Previous state: UP for " ++ uptime, failoverLine target] ++
      linkLine state.linkUp ++ ["Action: Monitoring at 15s intervals"])
  timestamp := now

def recoveredAlert (self : AlertEngine) (now : ℤ) (state : WANState) (downtime : String) :
    AlertEvent where
  severity := .critical
  category := "wan"
  title := state.interface ++ " RECOVERED"
  message := "\n".intercalate
    (self.routerLines now ++ ["Downtime: " ++ downtime, "Restored as primary gateway"])
  timestamp := now

def changeAlerts (self : AlertEngine) (now : ℤ) (state : WANState)
    (allStates : Option (Dict String WANState)) : List AlertEvent :=
  let previous := self.previousWan.get? state.interface
  match state.status with
  | .down =>
      [self.downAlert now state (previousDuration previous .up now)
        (failoverTarget state allStates)]
  | .up => [self.recoveredAlert now state (previousDuration previous .down now)]
  | .unknown => []

/-! ## Processing -/

def alertState (self : AlertEngine) (interface : String) : AlertState :=
  (self.wanStates.get? interface).getD {}

def processWanState (self : AlertEngine) (now : ℤ) (state : WANState)
    (allStates : Option (Dict String WANState)) : AlertEngine × List AlertEvent :=
  let alertState := self.alertState state.interface
  let alerts :=
    if alertState.shouldAlert state.status then self.changeAlerts now state allStates else []
  ({ self with
      wanStates := self.wanStates.set state.interface (alertState.observe now state.status)
      previousWan := self.previousWan.set state.interface state }, alerts)

def wanSyslogAlert (self : AlertEngine) (now : ℤ) (severity : AlertSeverity)
    (title detail : String) : AlertEvent where
  severity := severity
  category := "wan"
  title := title
  message := "\n".intercalate (self.routerLines now ++ [detail])
  timestamp := now

def processWanSyslog (self : AlertEngine) (now : ℤ) (event : SyslogEvent) : List AlertEvent :=
  let wanEventType := (event.metadata.get? "wan_event_type").getD ""
  let wanInterface := (event.metadata.get? "wan_interface").getD "unknown"
  if wanEventType = "online_detection" then []
  else if wanEventType = "failover_activated" then
    [self.wanSyslogAlert now .critical ("FAILOVER: " ++ wanInterface ++ " activated")
      ("Backup link " ++ wanInterface ++ " has taken over")]
  else if wanEventType = "failover_deactivated" then
    [self.wanSyslogAlert now .critical ("FAILOVER ENDED: " ++ wanInterface ++ " deactivated")
      ("Backup link " ++ wanInterface ++ " deactivated, primary restored")]
  else if wanEventType = "link_down" then
    [self.wanSyslogAlert now .warning (wanInterface ++ " physical link DOWN")
      ("Physical connection lost on " ++ wanInterface)]
  else []

def processSyslogEvent (self : AlertEngine) (now : ℤ) (event : SyslogEvent) :
    List AlertEvent :=
  if event.category = "wan" then self.processWanSyslog now event else []

def shouldUseAlertInterval (self : AlertEngine) : Bool :=
  self.wanStates.values.any fun state ↦
    state.currentStatus = .down || state.consecutiveStable < 5

def getCurrentWanStates (self : AlertEngine) : Dict String WANState := self.previousWan

end AlertEngine

/-! ## The level of an interface

The tracked status stays UNKNOWN through any number of initial UPs.  Its level
reads UNKNOWN as UP, and this is the value that every observation replaces.
-/

def AlertState.level (self : AlertState) : InterfaceStatus :=
  if self.currentStatus = .unknown then .up else self.currentStatus

theorem AlertState.shouldAlert_eq_true_iff (self : AlertState) {status : InterfaceStatus}
    (h : status ≠ .unknown) : self.shouldAlert status = true ↔ status ≠ self.level := by
  cases hs : self.currentStatus <;> cases status <;> simp_all [shouldAlert, level]

theorem AlertState.level_observe (self : AlertState) (now : ℤ) {status : InterfaceStatus}
    (h : status ≠ .unknown) : (self.observe now status).level = status := by
  have hiff := self.shouldAlert_eq_true_iff h
  by_cases hs : self.shouldAlert status = true
  · simp [observe, hs, level, h]
  · have hlevel : status = self.level := not_not.mp fun hne ↦ hs (hiff.mpr hne)
    rw [observe, if_neg hs, hlevel]
    rfl

namespace AlertEngine

def level (self : AlertEngine) (interface : String) : InterfaceStatus :=
  (self.alertState interface).level

/-- The title of the alert for a change to the given status. -/
def wanTitle (interface : String) : InterfaceStatus → String
  | .down => interface ++ " DOWN"
  | _ => interface ++ " RECOVERED"

/-- Only the DOWN alert of an interface has the title of its DOWN alert. -/
theorem wanTitle_eq_down_iff (n interface : String) (status : InterfaceStatus) :
    wanTitle n status = interface ++ " DOWN" ↔ n = interface ∧ status = .down := by
  have hrecovered : n ++ " RECOVERED" ≠ interface ++ " DOWN" := by
    intro h
    have hlast := congrArg (fun s ↦ s.toList.getLast?) h
    simp [String.toList_append, List.getLast?_append] at hlast
  cases status <;> simp [wanTitle, hrecovered]

variable (self : AlertEngine) (now : ℤ) {state : WANState}
  (allStates : Option (Dict String WANState))

/-- The one alert of a change to UP or DOWN. -/
def changeAlert (self : AlertEngine) (now : ℤ) (state : WANState)
    (allStates : Option (Dict String WANState)) : AlertEvent :=
  let previous := self.previousWan.get? state.interface
  if state.status = .down then
    self.downAlert now state (previousDuration previous .up now) (failoverTarget state allStates)
  else self.recoveredAlert now state (previousDuration previous .down now)

theorem changeAlerts_eq (h : state.status ≠ .unknown) :
    self.changeAlerts now state allStates = [self.changeAlert now state allStates] := by
  cases hs : state.status <;> simp_all [changeAlerts, changeAlert]

theorem title_changeAlert (h : state.status ≠ .unknown) :
    (self.changeAlert now state allStates).title = wanTitle state.interface state.status := by
  cases hs : state.status <;>
    simp_all [changeAlert, downAlert, recoveredAlert, wanTitle]

theorem processWanState_alerts (h : state.status ≠ .unknown) :
    (self.processWanState now state allStates).2 =
      if state.status = self.level state.interface then []
      else [self.changeAlert now state allStates] := by
  have hiff := (self.alertState state.interface).shouldAlert_eq_true_iff h
  rw [← changeAlerts_eq self now allStates h]
  by_cases hs : state.status = self.level state.interface
  · rw [if_pos hs, processWanState, if_neg fun hyes ↦ hiff.mp hyes hs]
  · rw [if_neg hs, processWanState, if_pos (hiff.mpr hs)]

theorem length_processWanState_alerts_le :
    (self.processWanState now state allStates).2.length ≤ 1 := by
  by_cases hs : (self.alertState state.interface).shouldAlert state.status = true
  · cases hstatus : state.status <;> simp_all [processWanState, changeAlerts]
  · simp [processWanState, hs]

theorem processWanState_alertState (interface : String) :
    (self.processWanState now state allStates).1.alertState interface =
      if interface = state.interface then
        (self.alertState interface).observe now state.status
      else self.alertState interface := by
  by_cases hi : interface = state.interface
  · subst hi
    simp [processWanState, alertState, Dict.get?_set_self]
  · simp [processWanState, alertState, Dict.get?_set_of_ne _ _ hi, hi]

theorem processWanState_level (h : state.status ≠ .unknown) :
    (self.processWanState now state allStates).1.level =
      Function.update self.level state.interface state.status := by
  funext interface
  rw [level, processWanState_alertState]
  by_cases hi : interface = state.interface
  · subst hi
    rw [if_pos rfl, Function.update_self, AlertState.level_observe _ _ h]
  · rw [if_neg hi, Function.update_of_ne hi, level]

/-! ## What a call reads -/

/-- Two engines hold the same data about an interface. -/
structure AgreesAt (interface : String) (e f : AlertEngine) : Prop where
  routerIp : e.routerIp = f.routerIp
  routerName : e.routerName = f.routerName
  wanState : e.wanStates.get? interface = f.wanStates.get? interface
  previous : e.previousWan.get? interface = f.previousWan.get? interface

theorem AgreesAt.trans {interface : String} {e f g : AlertEngine} (h : AgreesAt interface e f)
    (h' : AgreesAt interface f g) : AgreesAt interface e g :=
  ⟨h.routerIp.trans h'.routerIp, h.routerName.trans h'.routerName,
    h.wanState.trans h'.wanState, h.previous.trans h'.previous⟩

theorem AgreesAt.alertState_eq {interface : String} {e f : AlertEngine}
    (h : AgreesAt interface e f) : e.alertState interface = f.alertState interface := by
  rw [alertState, alertState, h.wanState]

theorem AgreesAt.level_eq {interface : String} {e f : AlertEngine}
    (h : AgreesAt interface e f) : e.level interface = f.level interface := by
  rw [level, level, h.alertState_eq]

theorem AgreesAt.changeAlerts {e f : AlertEngine} {state : WANState}
    (h : AgreesAt state.interface e f) (now : ℤ) (allStates : Option (Dict String WANState)) :
    e.changeAlerts now state allStates = f.changeAlerts now state allStates := by
  have hlines : e.routerLines now = f.routerLines now := by
    rw [routerLines, routerLines, h.routerIp, h.routerName]
  cases hs : state.status <;>
    simp [AlertEngine.changeAlerts, hs, downAlert, recoveredAlert, hlines, h.previous]

/-- The alerts of a call are a function of the data about its interface. -/
theorem AgreesAt.processWanState_alerts {e f : AlertEngine} {state : WANState}
    (h : AgreesAt state.interface e f) (now : ℤ) (allStates : Option (Dict String WANState)) :
    (e.processWanState now state allStates).2 = (f.processWanState now state allStates).2 := by
  rw [processWanState, processWanState, alertState, alertState, h.wanState,
    h.changeAlerts now allStates]

/-- What a call leaves about its interface is a function of the data about it. -/
theorem AgreesAt.processWanState {e f : AlertEngine} {state : WANState}
    (h : AgreesAt state.interface e f) (now : ℤ) (allStates : Option (Dict String WANState)) :
    AgreesAt state.interface (e.processWanState now state allStates).1
      (f.processWanState now state allStates).1 := by
  refine ⟨h.routerIp, h.routerName, ?_, ?_⟩
  · simp only [AlertEngine.processWanState, Dict.get?_set_self, alertState, h.wanState]
  · simp only [AlertEngine.processWanState, Dict.get?_set_self]

theorem agreesAt_processWanState_of_ne (e : AlertEngine) (now : ℤ) {state : WANState}
    (allStates : Option (Dict String WANState)) {interface : String}
    (h : interface ≠ state.interface) :
    AgreesAt interface (e.processWanState now state allStates).1 e :=
  ⟨rfl, rfl, Dict.get?_set_of_ne _ _ h, Dict.get?_set_of_ne _ _ h⟩

end AlertEngine

end WanRouter
