import WanRouter.Lib.EdgeDetector
import WanRouter.Lib.Machine
import WanRouter.Remote.DnsMonitor
import WanRouter.Shared.Config
import WanRouter.Shared.Telegram

/-!
# The DNS loop of the sentinel

The model of `resolve_hostname` and of `RemoteSentinel._dns_monitor_loop`.  A check
has moved the monitor on before its alerts are sent, and a send that raises drops
the alerts behind it.  The alert of a change is the first of its check, so it is
handed over whatever the sends do.
-/

namespace WanRouter

open EdgeDetector

/-- What `socket.getaddrinfo` gives. -/
inductive Lookup where
  | answered (addresses : List String)
  | gaierror (error : String)
  | raised (error : String)
  deriving DecidableEq

/-- Only a `gaierror` is caught. -/
def resolveHostname : Lookup → Except String (Option String)
  | .answered addresses => .ok addresses.head?
  | .gaierror _ => .ok none
  | .raised error => .error error

inductive DnsPosition where
  | sleeping
  | sending (alert : AlertEvent) (later : List AlertEvent)

structure DnsLoop where
  monitor : DnsMonitor
  telegram : TelegramNotifier
  interval : ℤ
  position : DnsPosition := .sleeping

inductive DnsEvent where
  | check (now : ℤ) (lookup : Lookup)
  | sent (reply : BotReply)

inductive DnsOutput where
  /-- An alert handed to `send_alert`. -/
  | handed (alert : AlertEvent)
  | slept (seconds : ℤ)

namespace DnsLoop

/-- There is a monitor, and a loop, only for an enabled hostname. -/
def ofConfig (config : DnsMonitorConfig) (telegram : TelegramNotifier) : Option DnsLoop :=
  if config.enabled && config.hostname ≠ "" then
    some {
      monitor := { hostname := config.hostname, expectedIp := config.expectedIp }
      telegram := telegram
      interval := config.interval }
  else none

/-- The loop `for alert in alerts`, up to its next suspension. -/
def deliver (self : DnsLoop) : List AlertEvent → DnsLoop × List DnsOutput
  | [] => ({ self with position := .sleeping }, [.slept self.interval])
  | alert :: later => ({ self with position := .sending alert later }, [.handed alert])

def step (self : DnsLoop) : DnsEvent → Option (DnsLoop × List DnsOutput)
  | .check now lookup =>
      match self.position with
      | .sleeping =>
          match resolveHostname lookup with
          | .ok currentIp =>
              let checked := self.monitor.check ⟨now, currentIp⟩
              some ({ self with monitor := checked.1 }.deliver checked.2)
          | .error _ => some (self, [.slept 60])
      | _ => none
  | .sent reply =>
      match self.position with
      | .sending alert later =>
          match self.telegram.sendAlert alert reply with
          | .returned _ => some (self.deliver later)
          | .raised => some ({ self with position := .sleeping }, [.slept 60])
      | _ => none

/-! ## What a step can do -/

inductive Transition (l : DnsLoop) : DnsEvent → DnsLoop → List DnsOutput → Prop
  | checked (now : ℤ) {lookup : Lookup} {currentIp : Option String}
      (hpos : l.position = .sleeping) (hlookup : resolveHostname lookup = .ok currentIp) :
      Transition l (.check now lookup)
        ({ l with monitor := (l.monitor.check ⟨now, currentIp⟩).1 }.deliver
          (l.monitor.check ⟨now, currentIp⟩).2).1
        ({ l with monitor := (l.monitor.check ⟨now, currentIp⟩).1 }.deliver
          (l.monitor.check ⟨now, currentIp⟩).2).2
  | lookupRaised (now : ℤ) {lookup : Lookup} {error : String}
      (hpos : l.position = .sleeping) (hlookup : resolveHostname lookup = .error error) :
      Transition l (.check now lookup) l [.slept 60]
  | sendReturned (reply : BotReply) (ok : Bool) {alert : AlertEvent} {later : List AlertEvent}
      (hpos : l.position = .sending alert later)
      (hresult : l.telegram.sendAlert alert reply = .returned ok) :
      Transition l (.sent reply) (l.deliver later).1 (l.deliver later).2
  | sendRaised (reply : BotReply) {alert : AlertEvent} {later : List AlertEvent}
      (hpos : l.position = .sending alert later)
      (hresult : l.telegram.sendAlert alert reply = .raised) :
      Transition l (.sent reply) { l with position := .sleeping } [.slept 60]

variable {l l' : DnsLoop} {e : DnsEvent} {es : List DnsEvent} {out o : List DnsOutput}

theorem transition_of_step (h : step l e = some (l', o)) : Transition l e l' o := by
  cases e with
  | check now lookup =>
      cases hpos : l.position with
      | sleeping =>
          cases hlookup : resolveHostname lookup with
          | ok currentIp =>
              simp only [step, hpos, hlookup, Option.some.injEq] at h
              have hchecked := Transition.checked now hpos hlookup
              rwa [hpos, h] at hchecked
          | error error =>
              simp only [step, hpos, hlookup] at h
              cases h
              exact .lookupRaised now hpos hlookup
      | _ => simp [step, hpos] at h
  | sent reply =>
      cases hpos : l.position with
      | sending alert later =>
          cases hresult : l.telegram.sendAlert alert reply with
          | returned ok =>
              simp only [step, hpos, hresult, Option.some.injEq] at h
              have hsent := Transition.sendReturned reply ok hpos hresult
              rwa [h] at hsent
          | raised =>
              simp only [step, hpos, hresult] at h
              cases h
              exact .sendRaised reply hpos hresult
      | _ => simp [step, hpos] at h

/-! ## The alerts of a run -/

def DnsEvent.check? : DnsEvent → Option DnsCheck
  | .check now lookup => (resolveHostname lookup).toOption.map fun ip ↦ ⟨now, ip⟩
  | .sent _ => none

/-- The checks of a run; a lookup that raises is none. -/
def checks (es : List DnsEvent) : List DnsCheck := es.filterMap DnsEvent.check?

def handed (out : List DnsOutput) : List AlertEvent :=
  out.filterMap fun
    | .handed alert => some alert
    | .slept _ => none

/-- The alerts of the current check that are still to be handed over. -/
def waiting (self : DnsLoop) : List AlertEvent :=
  match self.position with
  | .sleeping => []
  | .sending _ later => later

def isChange (hostname : String) (alert : AlertEvent) : Bool :=
  alert.title = "DNS record changed for " ++ hostname

/-- The changes of the address in a list of checks, each with the time of its check. -/
def addressChanges (last : Option String) (checks : List DnsCheck) :
    List (ℤ × String × String) :=
  changes last (checks.map fun c ↦ (c.now, c.currentIp))

def changeAlert (hostname : String) (change : ℤ × String × String) : AlertEvent :=
  (DnsFinding.changed change.2.1 change.2.2).alert hostname change.1

theorem handed_append (out o : List DnsOutput) : handed (out ++ o) = handed out ++ handed o :=
  List.filterMap_append

theorem deliver_alerts (l : DnsLoop) (alerts : List AlertEvent) :
    handed (l.deliver alerts).2 ++ (l.deliver alerts).1.waiting = alerts := by
  cases alerts <;> rfl

theorem deliver_waiting (l : DnsLoop) (alerts : List AlertEvent) :
    (l.deliver alerts).1.waiting = alerts.tail := by
  cases alerts <;> rfl

@[simp] theorem deliver_monitor (l : DnsLoop) (alerts : List AlertEvent) :
    (l.deliver alerts).1.monitor = l.monitor := by
  cases alerts <;> rfl

theorem checks_append (es es' : List DnsEvent) : checks (es ++ es') = checks es ++ checks es' :=
  List.filterMap_append

theorem checks_checked (now : ℤ) {lookup : Lookup} {currentIp : Option String}
    (h : resolveHostname lookup = .ok currentIp) :
    checks [.check now lookup] = [⟨now, currentIp⟩] := by
  simp [checks, DnsEvent.check?, h, Except.toOption]

theorem checks_lookupRaised (now : ℤ) {lookup : Lookup} {error : String}
    (h : resolveHostname lookup = .error error) : checks [.check now lookup] = [] := by
  simp [checks, DnsEvent.check?, h, Except.toOption]

theorem addressChanges_append (earlier : List DnsCheck) (c : DnsCheck) :
    addressChanges none (earlier ++ [c]) =
      addressChanges none earlier ++
        addressChanges (DnsMonitor.latestAddress (earlier.map DnsCheck.currentIp)) [c] := by
  have hlast : ((earlier.map fun c ↦ (c.now, c.currentIp)).filterMap Prod.snd).getLast?.or none =
      DnsMonitor.latestAddress (earlier.map DnsCheck.currentIp) := by
    rw [Option.or_none, DnsMonitor.latestAddress, List.filterMap_map, List.filterMap_map]
    rfl
  rw [addressChanges, List.map_append, changes_append, hlast]
  rfl

theorem isChange_changeAlert (hostname : String) (change : ℤ × String × String) :
    isChange hostname (changeAlert hostname change) = true := by
  simp [isChange, changeAlert, DnsFinding.alert]

theorem not_isChange_mismatch (hostname : String) (now : ℤ) (currentIp expectedIp : String) :
    isChange hostname ((DnsFinding.mismatch currentIp expectedIp).alert hostname now) = false := by
  simp [isChange, DnsFinding.alert]

theorem not_isChange_failed (hostname : String) (now : ℤ) (failures : ℕ)
    (lastKnown : Option String) :
    isChange hostname ((DnsFinding.failed failures lastKnown).alert hostname now) = false := by
  simp [isChange, DnsFinding.alert]

theorem filter_eq_nil {hostname : String} {alerts : List AlertEvent}
    (h : ∀ alert ∈ alerts, isChange hostname alert = false) :
    alerts.filter (isChange hostname) = [] := by
  rw [List.filter_eq_nil_iff]
  intro alert halert
  rw [h alert halert]
  exact Bool.false_ne_true

/-- A check tells a change first or not at all. -/
theorem check_alerts (monitor : DnsMonitor) (c : DnsCheck) :
    ∃ others, (monitor.check c).2 =
        (addressChanges monitor.lastSeenIp [c]).map (changeAlert monitor.hostname) ++ others ∧
      ∀ alert ∈ others, isChange monitor.hostname alert = false := by
  obtain ⟨now, currentIp⟩ := c
  cases currentIp with
  | none =>
      refine ⟨(monitor.check ⟨now, none⟩).2, rfl, ?_⟩
      intro alert halert
      rw [DnsMonitor.check] at halert
      dsimp only at halert
      split_ifs at halert
      · obtain rfl := List.mem_singleton.mp halert
        exact not_isChange_failed _ _ _ _
      · exact (List.not_mem_nil halert).elim
  | some currentIp =>
      refine ⟨_, congrArg (· ++ _) ?_, ?_⟩
      · cases monitor.lastSeenIp with
        | none => rfl
        | some previousIp =>
            by_cases hne : currentIp = previousIp
            · simp [addressChanges, changes, hne]
            · simp [addressChanges, changes, hne, Ne.symm hne, changeAlert]
      · intro alert halert
        split_ifs at halert
        · obtain rfl := List.mem_singleton.mp halert
          exact not_isChange_mismatch _ _ _ _
        · exact (List.not_mem_nil halert).elim

theorem length_addressChanges_singleton (last : Option String) (c : DnsCheck) :
    (addressChanges last [c]).length ≤ 1 := by
  obtain ⟨now, _ | currentIp⟩ := c
  · exact Nat.zero_le 1
  · simp only [addressChanges, List.map_cons, List.map_nil, changes, List.append_nil,
      List.length_map]
    apply (List.length_filter_le _ _).trans
    cases last <;> simp

theorem filter_check (monitor : DnsMonitor) (c : DnsCheck) :
    (monitor.check c).2.filter (isChange monitor.hostname) =
      (addressChanges monitor.lastSeenIp [c]).map (changeAlert monitor.hostname) := by
  obtain ⟨others, halerts, hothers⟩ := check_alerts monitor c
  rw [halerts, List.filter_append, filter_eq_nil hothers, List.append_nil, List.filter_eq_self]
  intro alert halert
  obtain ⟨change, -, rfl⟩ := List.mem_map.mp halert
  exact isChange_changeAlert _ _

theorem not_isChange_of_mem_tail (monitor : DnsMonitor) (c : DnsCheck) :
    ∀ alert ∈ (monitor.check c).2.tail, isChange monitor.hostname alert = false := by
  obtain ⟨others, halerts, hothers⟩ := check_alerts monitor c
  have hlength := length_addressChanges_singleton monitor.lastSeenIp c
  intro alert halert
  apply hothers
  rw [halerts] at halert
  match hchanges : addressChanges monitor.lastSeenIp [c] with
  | [] =>
      rw [hchanges] at halert
      exact List.mem_of_mem_tail halert
  | [change] =>
      rw [hchanges] at halert
      exact halert
  | _ :: _ :: _ => simp [hchanges] at hlength

/-! ## Runs -/

variable {config : DnsMonitorConfig} {telegram : TelegramNotifier}

/-- The monitor as the configuration sets it up. -/
def initialMonitor (config : DnsMonitorConfig) : DnsMonitor :=
  { hostname := config.hostname, expectedIp := config.expectedIp }

theorem monitor_ofConfig (h : ofConfig config telegram = some l) :
    l.monitor = initialMonitor config ∧ l.position = .sleeping := by
  rw [ofConfig] at h
  split_ifs at h
  cases h
  exact ⟨rfl, rfl⟩

/-- What holds of the loop after the events. -/
structure Inv (config : DnsMonitorConfig) (es : List DnsEvent) (l : DnsLoop)
    (out : List DnsOutput) : Prop where
  monitor : l.monitor = Mealy.run DnsMonitor.check (initialMonitor config) (checks es)
  waiting : ∀ alert ∈ l.waiting, isChange config.hostname alert = false
  changes : (handed out).filter (isChange config.hostname) =
    (addressChanges none (checks es)).map (changeAlert config.hostname)
  told : (handed out ++ l.waiting).Sublist
    (Mealy.outputs DnsMonitor.check (initialMonitor config) (checks es)).flatten

theorem Inv.hostname (h : Inv config es l out) : l.monitor.hostname = config.hostname := by
  rw [h.monitor, Mealy.run_frame DnsMonitor.check DnsMonitor.hostname DnsMonitor.check_hostname]
  rfl

theorem Inv.lastSeenIp (h : Inv config es l out) :
    l.monitor.lastSeenIp = DnsMonitor.latestAddress ((checks es).map DnsCheck.currentIp) := by
  rw [h.monitor]
  exact DnsMonitor.run_lastSeenIp _ _ rfl

/-- A step without a check, which hands over at most what was waiting. -/
theorem Inv.frame (h : Inv config es l out) (hchecks : checks [e] = [])
    (hmonitor : l'.monitor = l.monitor) (hwaiting : (handed o ++ l'.waiting).Sublist l.waiting) :
    Inv config (es ++ [e]) l' (out ++ o) where
  monitor := by rw [hmonitor, h.monitor, checks_append, hchecks, List.append_nil]
  waiting := by
    intro alert halert
    exact h.waiting alert (hwaiting.mem (List.mem_append_right _ halert))
  changes := by
    have hnone : (handed o).filter (isChange config.hostname) = [] := by
      apply filter_eq_nil
      intro alert halert
      exact h.waiting alert (hwaiting.mem (List.mem_append_left _ halert))
    rw [handed_append, List.filter_append, hnone, List.append_nil, h.changes, checks_append,
      hchecks, List.append_nil]
  told := by
    rw [handed_append, List.append_assoc, checks_append, hchecks, List.append_nil]
    exact ((List.Sublist.refl _).append hwaiting).trans h.told

theorem Inv.step (h : Inv config es l out) (hstep : l.step e = some (l', o)) :
    Inv config (es ++ [e]) l' (out ++ o) := by
  cases transition_of_step hstep with
  | @checked now lookup currentIp hpos hlookup =>
      have hidle : l.waiting = [] := by rw [DnsLoop.waiting, hpos]
      have halerts := deliver_alerts { l with monitor := (l.monitor.check ⟨now, currentIp⟩).1 }
        (l.monitor.check ⟨now, currentIp⟩).2
      have htail := deliver_waiting { l with monitor := (l.monitor.check ⟨now, currentIp⟩).1 }
        (l.monitor.check ⟨now, currentIp⟩).2
      have hwaiting := not_isChange_of_mem_tail l.monitor ⟨now, currentIp⟩
      rw [← htail, h.hostname] at hwaiting
      have hchanges := filter_check l.monitor ⟨now, currentIp⟩
      rw [← halerts, List.filter_append, h.hostname, h.lastSeenIp, filter_eq_nil hwaiting,
        List.append_nil] at hchanges
      refine ⟨?_, hwaiting, ?_, ?_⟩
      · rw [checks_append, checks_checked now hlookup, Mealy.run_append, deliver_monitor,
          h.monitor]
        rfl
      · rw [handed_append, List.filter_append, h.changes, checks_append,
          checks_checked now hlookup, addressChanges_append, List.map_append, hchanges]
      · have htold := h.told
        rw [hidle, List.append_nil] at htold
        rw [handed_append, List.append_assoc, halerts, checks_append,
          checks_checked now hlookup, Mealy.outputs_append, List.flatten_append, ← h.monitor]
        apply htold.append
        simp
  | lookupRaised now hpos hlookup =>
      exact h.frame (checks_lookupRaised now hlookup) rfl (List.Sublist.refl _)
  | @sendReturned reply ok alert later hpos hresult =>
      apply h.frame rfl (deliver_monitor l later)
      rw [deliver_alerts, DnsLoop.waiting, hpos]
  | sendRaised reply hpos hresult =>
      exact h.frame rfl rfl (List.nil_sublist _)

/-- Whatever the sends do, every change of the address is handed over as one alert, in order,
and each begins at the address the one before it ended at; nothing is handed over that no
check told. -/
theorem changes_handed (config : DnsMonitorConfig) (telegram : TelegramNotifier)
    {l t : DnsLoop} {es : List DnsEvent} {out : List DnsOutput}
    (hl : ofConfig config telegram = some l)
    (hrun : Machine.run step l es = some (t, out)) :
    (handed out).filter (isChange config.hostname) =
        (addressChanges none (checks es)).map (changeAlert config.hostname) ∧
      (addressChanges none (checks es)).map Prod.snd =
        (((checks es).filterMap DnsCheck.currentIp).destutter (· ≠ ·)).zip
          (((checks es).filterMap DnsCheck.currentIp).destutter (· ≠ ·)).tail ∧
      (handed out).Sublist
        (Mealy.outputs DnsMonitor.check (initialMonitor config) (checks es)).flatten := by
  obtain ⟨hmonitor, hpos⟩ := monitor_ofConfig hl
  have h : Inv config es t out := by
    refine Machine.run_induction step (P := fun es t out ↦ Inv config es t out) ?_ ?_ es t out hrun
    · refine ⟨hmonitor, ?_, rfl, ?_⟩
      · simp [DnsLoop.waiting, hpos]
      · simp [DnsLoop.waiting, hpos, handed]
    · intro es m out e t o _ ih hstep
      exact ih.step hstep
  refine ⟨h.changes, ?_, (List.sublist_append_left _ _).trans h.told⟩
  rw [addressChanges, map_changes, List.filterMap_map]
  rfl

def homeConfig : DnsMonitorConfig where
  enabled := true
  hostname := "home.example.org"
  expectedIp := "192.0.2.1"

/-- The address changes twice, with a lookup that fails between and a send that raises. -/
def twoChanges : List DnsEvent :=
  [.check 0 (.answered ["192.0.2.1"]), .check 300000000 (.answered ["192.0.2.2", "192.0.2.9"]),
    .sent .otherError, .check 400000000 (.gaierror "timed out"),
    .check 700000000 (.answered ["192.0.2.1"])]

theorem twoChanges_handed :
    ∃ l t out, ofConfig homeConfig {} = some l ∧ Machine.run step l twoChanges = some (t, out) ∧
      ((handed out).filter (isChange "home.example.org")).map AlertEvent.message =
        ["IP changed: 192.0.2.1 → 192.0.2.2\nTime: 1970-01-01 00:05:00 UTC",
          "IP changed: 192.0.2.2 → 192.0.2.1\nTime: 1970-01-01 00:11:40 UTC"] := by
  obtain ⟨l, t, out, hl, hrun⟩ : ∃ l t out, ofConfig homeConfig {} = some l ∧
      Machine.run step l twoChanges = some (t, out) := ⟨_, _, _, rfl, rfl⟩
  refine ⟨l, t, out, hl, hrun, ?_⟩
  have hchanges := (changes_handed homeConfig {} hl hrun).1
  rw [show "home.example.org" = homeConfig.hostname from rfl, hchanges]
  decide

end DnsLoop

end WanRouter
