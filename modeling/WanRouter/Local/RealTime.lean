import WanRouter.Lib.TimedMachine
import WanRouter.Local.HeartbeatAlerts
import WanRouter.Local.PollIntervals
import WanRouter.Local.Shutdown

/-!
# The poll loop in real time

`_poll_loop` sleeps for one of the two intervals after an iteration, and ten seconds
after one that raised.  The validator of `PollingConfig` refuses intervals of less
than ten seconds, so the polls and the alerts about a WAN are kept apart.  In the
other direction, a change of the route is noticed in time.
-/

namespace WanRouter

open OrderedDict SNMPPoller AlertEngine TimedMachine

namespace LocalMonitor

/-- The sleep after an iteration that raised, and the least interval that is accepted. -/
def leastPause : ℤ := 10 * microsPerSecond

def realTime : Task LocalMonitor MonitorEvent MonitorOutput where
  step := step
  own := MonitorEvent.ofPollLoop
  asleep m :=
    match m.position with
    | .sleeping => true
    | _ => false
  pause _ out := (slept out).sum * microsPerSecond

/-- The alerts about a WAN that the outputs of a step tell of as handed over. -/
def alertsAbout (name : String) (out : List MonitorOutput) : ℕ :=
  ((sends out).map Prod.fst).countP (isWanAlert name)

/-- When polls were started. -/
def pollTimes (log : List (Entry MonitorEvent MonitorOutput)) : List ℤ :=
  times (fun e _ ↦ e.isStartPoll.toNat) log

/-- When a send of an alert about the WAN was over. -/
def alertTimes (name : String) (log : List (Entry MonitorEvent MonitorOutput)) : List ℤ :=
  times (fun _ out ↦ alertsAbout name out) log

/-- The longest interval, in microseconds. -/
def longestPause (config : LocalConfig) : ℤ :=
  max config.polling.normalInterval config.polling.alertInterval * microsPerSecond

variable {config : LocalConfig} {telegram : TelegramNotifier} {m m' t : LocalMonitor}
  {e : MonitorEvent} {o out : List MonitorOutput}

theorem asleep_realTime : realTime.asleep m = true ↔ m.position = .sleeping := by
  change (match m.position with | .sleeping => true | _ => false) = true ↔ _
  cases m.position <;> simp

theorem awake_realTime : realTime.asleep m = false ↔ m.position ≠ .sleeping := by
  rw [← Bool.not_eq_true, asleep_realTime]

theorem deliver_position_ne_sleeping (m : LocalMonitor) (interval : ℤ)
    (allStates : Dict String WANState) (remaining : List WANState) (alerts : List AlertEvent) :
    (m.deliver interval allStates remaining alerts).position ≠ .sleeping := by
  cases alerts <;> simp [deliver]

/-- A step of another task leaves the position of the loop, and no send is over. -/
theorem other_step (hother : e.ofPollLoop = false) (hstep : step m e = some (t, o)) :
    t.position = m.position ∧ sends o = [] ∧ e.isStartPoll = false := by
  cases transition_of_step hstep with
  | heartbeat now hsuspended => exact ⟨rfl, rfl, rfl⟩
  | syslog now event hsuspended => exact ⟨rfl, sends_dispatched _, rfl⟩
  | _ => cases hother

/-- What the loop relies on: the configuration, the interval it chose and the states at hand. -/
structure LoopInvariant (config : LocalConfig) (m : LocalMonitor) : Prop where
  config_eq : m.config = config
  wanGateways : m.poller.wanGateways = config.router.wanGateways
  interval : ∀ seconds ∈ m.interval?, 10 ≤ seconds ∧
    seconds ≤ max config.polling.normalInterval config.polling.alertInterval
  known : ∀ state ∈ m.unprocessed, state.status ≠ .unknown
  remaining : m.remainingSteps ≤ 2 + 2 * config.router.wanGateways.keys.length

theorem pollInterval_mem (m : LocalMonitor) : 10 ≤ m.pollInterval ∧
    m.pollInterval ≤ max m.config.polling.normalInterval m.config.polling.alertInterval := by
  rw [pollInterval]
  split_ifs
  · exact ⟨m.config.polling.alertInterval_ge, le_max_right _ _⟩
  · exact ⟨m.config.polling.normalInterval_ge, le_max_left _ _⟩

theorem loopInvariant_init (config : LocalConfig) (telegram : TelegramNotifier) :
    LoopInvariant config (init config telegram) :=
  ⟨rfl, rfl, by rintro _ ⟨⟩, fun _ hstate ↦ (List.not_mem_nil hstate).elim, Nat.zero_le _⟩

theorem LoopInvariant.step (h : LoopInvariant config m) (htrans : Transition m e t o) :
    LoopInvariant config t := by
  have hconfig := htrans.config_eq.trans h.config_eq
  have hgateways := htrans.wanGateways_eq.trans h.wanGateways
  have hremaining := htrans.remainingSteps_le h.wanGateways h.remaining
  cases htrans with
  | startPoll hpos =>
      refine ⟨hconfig, hgateways, ?_, fun _ hstate ↦ (List.not_mem_nil hstate).elim, hremaining⟩
      rintro seconds ⟨⟩
      rw [← h.config_eq]
      exact m.pollInterval_mem
  | polled input interval hpos =>
      refine ⟨hconfig, hgateways, ?_, ?_, hremaining⟩
      · rintro seconds ⟨⟩
        exact h.interval interval (by rw [interval?, hpos]; rfl)
      · intro state hstate
        change state ∈ (m.poller.states input).values at hstate
        rw [values_states] at hstate
        obtain ⟨name, -, rfl⟩ := List.mem_map.mp hstate
        exact m.poller.wanState_status_ne_unknown input name
  | @process now interval allStates state remaining hpos =>
      refine ⟨hconfig, hgateways, ?_, ?_, hremaining⟩
      · rw [interval?_deliver]
        rintro seconds ⟨⟩
        exact h.interval interval (by rw [interval?, hpos]; rfl)
      · rw [unprocessed_deliver]
        intro state' hstate
        exact h.known state' (by rw [unprocessed, hpos]; exact List.mem_cons_of_mem _ hstate)
  | finish hpos =>
      exact ⟨hconfig, hgateways, by rintro _ ⟨⟩,
        fun _ hstate ↦ (List.not_mem_nil hstate).elim, hremaining⟩
  | @sendReturned reply ok interval allStates remaining alert later hpos hresult =>
      refine ⟨hconfig, hgateways, ?_, ?_, hremaining⟩
      · rw [interval?_deliver]
        rintro seconds ⟨⟩
        exact h.interval interval (by rw [interval?, hpos]; rfl)
      · rw [unprocessed_deliver]
        intro state' hstate
        exact h.known state' (by rw [unprocessed, hpos]; exact hstate)
  | sendRaised reply hpos hresult =>
      exact ⟨hconfig, hgateways, by rintro _ ⟨⟩,
        fun _ hstate ↦ (List.not_mem_nil hstate).elim, hremaining⟩
  | heartbeat now hsuspended => exact h
  | syslog now event hsuspended => exact ⟨hconfig, hgateways, h.interval, h.known, hremaining⟩

theorem regular_realTime (config : LocalConfig) : realTime.Regular (LoopInvariant config) where
  keeps h hstep := h.step (transition_of_step hstep)
  asleep_eq := by
    intro m e t o hother hstep
    have hpos := (other_step hother hstep).1
    change (match t.position with | .sleeping => true | _ => false) = _
    rw [hpos]
    rfl

/-- The loop sleeps for at least ten seconds and at most for the longest interval. -/
theorem pause_mem (h : LoopInvariant config m) (hown : e.ofPollLoop = true)
    (hstep : step m e = some (t, o)) (hasleep : realTime.asleep t = true) :
    leastPause ≤ realTime.pause t o ∧ realTime.pause t o ≤ longestPause config := by
  have hpos := asleep_realTime.mp hasleep
  have hpause : ∀ seconds, slept o = [seconds] →
      realTime.pause t o = seconds * microsPerSecond := by
    intro seconds hslept
    change (slept o).sum * microsPerSecond = _
    rw [hslept, List.sum_singleton]
  have hbounds : ∀ seconds, 10 ≤ seconds ∧
      seconds ≤ max config.polling.normalInterval config.polling.alertInterval →
      leastPause ≤ seconds * microsPerSecond ∧ seconds * microsPerSecond ≤ longestPause config := by
    rintro seconds ⟨hle, hge⟩
    exact ⟨Int.mul_le_mul_of_nonneg_right hle (by decide),
      Int.mul_le_mul_of_nonneg_right hge (by decide)⟩
  cases transition_of_step hstep with
  | startPoll _ => cases hpos
  | polled input interval _ => cases hpos
  | process now _ => exact (deliver_position_ne_sleeping _ _ _ _ _ hpos).elim
  | @finish interval allStates hprocessing =>
      rw [hpause interval rfl]
      exact hbounds interval (h.interval interval (by rw [interval?, hprocessing]; rfl))
  | sendReturned reply ok _ _ => exact (deliver_position_ne_sleeping _ _ _ _ _ hpos).elim
  | sendRaised reply _ _ =>
      rw [hpause 10 rfl]
      exact hbounds 10 ⟨le_rfl, config.polling.normalInterval_ge.trans (le_max_left _ _)⟩
  | heartbeat now _ => cases hown
  | syslog now event _ => cases hown

/-! ## The distance between polls and between alerts -/

theorem marksOnce_polls (config : LocalConfig) :
    realTime.MarksOnce (LoopInvariant config) (fun e _ ↦ e.isStartPoll.toNat) (fun _ ↦ 0)
      leastPause where
  toRegular := regular_realTime config
  other := by
    intro m e t o _ hother hstep
    rw [(other_step hother hstep).2.2]
    exact ⟨rfl, le_rfl⟩
  begins := fun _ _ _ _ ↦ Bool.toNat_le _
  continues := by
    intro m e t o _ hawake hown hstep
    cases transition_of_step hstep with
    | startPoll hpos => exact absurd hpos (awake_realTime.mp hawake)
    | _ => exact le_rfl
  gap_le h hown hstep hasleep := (pause_mem h hown hstep hasleep).1

/-- How many alerts about the WAN the iteration can still hand over: the one that is being
sent, or the one for its state, if that is to come. -/
def due (name : String) (m : LocalMonitor) : ℕ :=
  m.polling + (m.unprocessed.map WANState.interface).count name +
    m.queued.countP (isWanAlert name)

theorem due_deliver (name : String) (m : LocalMonitor) (interval : ℤ)
    (allStates : Dict String WANState) (remaining : List WANState) (alerts : List AlertEvent) :
    (m.deliver interval allStates remaining alerts).due name =
      (remaining.map WANState.interface).count name + alerts.countP (isWanAlert name) := by
  rw [due, polling_deliver, unprocessed_deliver, queued_deliver, Nat.zero_add]

theorem due_congr (name : String) (h : t.position = m.position) : t.due name = m.due name := by
  simp only [due, polling, unprocessed, queued, h]

theorem due_of_sleeping (name : String) (hpos : m.position = .sleeping) : m.due name = 0 := by
  simp [due, polling, unprocessed, queued, hpos]

/-- One call of the engine makes at most one alert, and it is about the WAN of the state. -/
theorem countP_processWanState_le (engine : AlertEngine) (now : ℤ) {state : WANState}
    (allStates : Option (Dict String WANState)) (h : state.status ≠ .unknown) (name : String) :
    (engine.processWanState now state allStates).2.countP (isWanAlert name) ≤
      if state.interface = name then 1 else 0 := by
  split_ifs with hname
  · exact List.countP_le_length.trans (engine.length_processWanState_alerts_le now allStates)
  · rw [Nat.le_zero, List.countP_eq_zero]
    exact fun alert halert htrue ↦
      hname ((isWanAlert_of_title h (title_of_mem_call h halert)).mp htrue)

theorem due_startPoll (name : String) (m : LocalMonitor) :
    due name { m with position := .polling m.pollInterval } = 1 := by
  simp [due, polling, unprocessed, queued]

/-- A step of the loop at work spends what it hands over. -/
theorem Transition.due_le (h : Transition m e t o) (hknown : ∀ state ∈ m.unprocessed,
    state.status ≠ .unknown) (hpos : m.position ≠ .sleeping) (name : String) :
    alertsAbout name o + t.due name ≤ m.due name := by
  cases h with
  | startPoll hsleeping => exact absurd hsleeping hpos
  | polled input interval hpolling =>
      have hone : ((m.poller.states input).values.map WANState.interface).count name ≤ 1 :=
        List.nodup_iff_count_le_one.mp (m.poller.nodup_values_interface input) name
      have hbefore : m.due name = 1 := by simp [due, polling, unprocessed, queued, hpolling]
      change 0 + (0 + _ + 0) ≤ _
      rw [hbefore, Nat.zero_add, Nat.zero_add, Nat.add_zero]
      exact hone
  | @process now interval allStates state remaining hprocessing =>
      have hstatus : state.status ≠ .unknown :=
        hknown state (by rw [unprocessed, hprocessing]; exact List.mem_cons_self)
      have hcall := countP_processWanState_le m.alertEngine now (some allStates) hstatus name
      have hbefore : m.due name = ((state :: remaining).map WANState.interface).count name := by
        simp [due, polling, unprocessed, queued, hprocessing]
      rw [due_deliver, hbefore, List.map_cons, List.count_cons]
      simp only [beq_iff_eq]
      change 0 + _ ≤ _
      omega
  | finish hprocessing =>
      rw [due_of_sleeping name rfl]
      exact Nat.zero_le _
  | @sendReturned reply ok interval allStates remaining alert later hsending hresult =>
      rw [due_deliver]
      simp only [due, polling, unprocessed, queued, hsending, alertsAbout, sends,
        MonitorOutput.sent?, List.filterMap_cons, List.filterMap_nil, List.map_cons, List.map_nil,
        List.countP_cons, List.countP_nil]
      omega
  | @sendRaised reply interval allStates remaining alert later hsending hresult =>
      rw [due_of_sleeping name rfl]
      simp only [due, polling, unprocessed, queued, hsending, alertsAbout, sends,
        MonitorOutput.sent?, List.filterMap_cons, List.filterMap_nil, List.map_cons, List.map_nil,
        List.countP_cons, List.countP_nil]
      omega
  | heartbeat now hsuspended => simp [alertsAbout, sends, MonitorOutput.sent?]
  | syslog now event hsuspended =>
      rw [alertsAbout, sends_dispatched]
      exact (Nat.zero_add _).le.trans (due_congr name rfl).le

theorem marksOnce_alerts (config : LocalConfig) (name : String) :
    realTime.MarksOnce (LoopInvariant config) (fun _ out ↦ alertsAbout name out) (due name)
      leastPause where
  toRegular := regular_realTime config
  other := by
    intro m e t o _ hother hstep
    obtain ⟨hpos, hsends, -⟩ := other_step hother hstep
    rw [alertsAbout, hsends, due_congr name hpos]
    exact ⟨rfl, le_rfl⟩
  begins := by
    intro m e t o _ hasleep hown hstep
    have hpos := asleep_realTime.mp hasleep
    rcases (transition_of_step hstep).of_sleeping hpos with ⟨rfl, rfl, rfl⟩ | hidle
    · rw [due_startPoll]
      exact le_rfl
    · rw [alertsAbout, hidle.sends, due_of_sleeping name (hidle.position.trans hpos)]
      exact Nat.zero_le _
  continues h hawake _ hstep :=
    (transition_of_step hstep).due_le h.known (awake_realTime.mp hawake) name
  gap_le h hown hstep hasleep := (pause_mem h hown hstep hasleep).1

/-- The times are at least ten seconds apart, so a window of any width holds few of them. -/
structure SpacedTimes (times : List ℤ) : Prop where
  pairwise : times.Pairwise fun a b ↦ a + leastPause ≤ b
  window : ∀ a width, 0 ≤ width →
    ((times.filter fun x ↦ a ≤ x ∧ x ≤ a + width).length : ℤ) ≤ width / leastPause + 1

theorem spacedTimes_of_pairwise {times : List ℤ}
    (h : times.Pairwise fun a b ↦ a + leastPause ≤ b) : SpacedTimes times where
  pairwise := h
  window := fun a _ hwidth ↦ Task.length_window_le h (by decide) a hwidth

/-- The poll loop does not flood the router or Telegram, whatever the answers and the sends do:
its polls are at least ten seconds apart, and so are its alerts about any one WAN.  The alerts of
the syslog callback are not counted; nothing spaces them. -/
theorem polls_and_alerts_spaced (config : LocalConfig) (telegram : TelegramNotifier) {begin : ℤ}
    {es : List (ℤ × MonitorEvent)} {t : Timed LocalMonitor}
    {log : List (Entry MonitorEvent MonitorOutput)}
    (hrun : Machine.run realTime.timedStep (start (init config telegram) begin) es =
      some (t, log)) :
    SpacedTimes (pollTimes log) ∧ ∀ name, SpacedTimes (alertTimes name log) := by
  have hinit := loopInvariant_init config telegram
  constructor
  · apply spacedTimes_of_pairwise
    exact (marksOnce_polls config).pairwise_times hinit rfl hrun
  · intro name
    apply spacedTimes_of_pairwise
    exact (marksOnce_alerts config name).pairwise_times hinit rfl hrun

/-- The route is at WAN2 from the first poll on. -/
def standbyRoute : List (ℤ × MonitorEvent) :=
  [(0, .startPoll), (500000, .polled (Round.answering "10.0.0.2").input), (600000, .process 0),
    (900000, .sendDone .delivered), (900000, .process 0), (900000, .finish),
    (60900000, .startPoll), (61000000, .polled (Round.answering "10.0.0.2").input),
    (61000000, .process 0), (61000000, .process 0), (61000000, .finish),
    (76000000, .startPoll)]

theorem standbyRoute_spaced :
    ∃ t log, Machine.run realTime.timedStep (start (init { router := dualWan } {}) 0)
        standbyRoute = some (t, log) ∧
      pollTimes log = [0, 60900000, 76000000] ∧ SpacedTimes (pollTimes log) ∧
      alertTimes "WAN1" log = [900000] ∧ SpacedTimes (alertTimes "WAN1" log) := by
  obtain ⟨t, log, hrun, htimes, htimes'⟩ : ∃ t log,
      Machine.run realTime.timedStep (start (init { router := dualWan } {}) 0)
          standbyRoute = some (t, log) ∧
        pollTimes log = [0, 60900000, 76000000] ∧ alertTimes "WAN1" log = [900000] :=
    ⟨_, _, rfl, rfl, rfl⟩
  obtain ⟨hpolls, halerts⟩ := polls_and_alerts_spaced _ _ hrun
  exact ⟨t, log, hrun, htimes, hpolls, htimes', halerts "WAN1"⟩

/-! ## The time until a change is noticed -/

theorem works_realTime (config : LocalConfig) :
    realTime.Works (LoopInvariant config) remainingSteps
      (2 * config.router.wanGateways.keys.length + 3) (longestPause config) where
  toRegular := regular_realTime config
  work_other := by
    intro m e t o _ hother hstep
    have htrans := transition_of_step hstep
    simp only [remainingSteps, (other_step hother hstep).1, htrans.wanGateways_eq]
  work_own := by
    intro m e t o _ hawake hown hstep
    have htrans := transition_of_step hstep
    apply htrans.remainingSteps_lt hown
    cases htrans with
    | startPoll hpos => exact absurd hpos (awake_realTime.mp hawake)
    | _ => rfl
  work_lt := by
    intro m h _
    have hle := h.remaining
    omega
  pause_mem := by
    intro m e t o h hown hstep hasleep
    obtain ⟨hleast, hlongest⟩ := pause_mem h hown hstep hasleep
    exact ⟨le_trans (by decide) hleast, hlongest⟩
  longest_nonneg := by
    have hnormal := config.polling.normalInterval_ge
    exact mul_nonneg (le_max_of_le_left (by omega)) (by decide)

/-- The status that a heartbeat would report about the WAN. -/
def reported (m : LocalMonitor) (name : String) : Option InterfaceStatus :=
  (m.alertEngine.previousWan.get? name).map WANState.status

/-- Every poll that was answered reported this status about the WAN. -/
def AllReport (name : String) (status : InterfaceStatus) (out : List MonitorOutput) : Prop :=
  ∀ states ∈ polledStates out, (states.get? name).map WANState.status = some status

/-- No send raised an exception. -/
def AllReturn (out : List MonitorOutput) : Prop := ∀ p ∈ sends out, p.2 ≠ .raised

/-- The state of the WAN is still to be processed or has been, and it has this status. -/
structure Carries (name : String) (status : InterfaceStatus) (m : LocalMonitor) : Prop where
  unprocessed : ∀ state ∈ m.unprocessed, state.interface = name → state.status = status
  processed : name ∉ m.unprocessed.map WANState.interface → m.reported name = some status

variable {name : String} {status : InterfaceStatus}

theorem AllReport.left {more : List MonitorOutput} (h : AllReport name status (out ++ more)) :
    AllReport name status out := by
  intro states hstates
  apply h
  rw [polledStates_append]
  exact List.mem_append_left _ hstates

theorem AllReport.right {more : List MonitorOutput} (h : AllReport name status (out ++ more)) :
    AllReport name status more := by
  intro states hstates
  apply h
  rw [polledStates_append]
  exact List.mem_append_right _ hstates

theorem AllReturn.left {more : List MonitorOutput} (h : AllReturn (out ++ more)) :
    AllReturn out := by
  intro p hp
  apply h
  rw [sends_append]
  exact List.mem_append_left _ hp

theorem AllReturn.right {more : List MonitorOutput} (h : AllReturn (out ++ more)) :
    AllReturn more := by
  intro p hp
  apply h
  rw [sends_append]
  exact List.mem_append_right _ hp

/-- The answer of a poll about a configured WAN. -/
theorem unprocessed_polled {input : PollInput} {interval : ℤ}
    (hname : name ∈ m.poller.wanGateways.keys)
    (hreport : AllReport name status [.polled (m.poller.states input)]) :
    Carries name status
      { m with
        poller := (m.poller.poll input).1
        position := .processing interval (m.poller.states input)
          (m.poller.states input).values } := by
  have hstatus : (m.poller.wanState input name).status = status := by
    have hget := hreport (m.poller.states input) List.mem_cons_self
    rw [m.poller.get?_states input hname] at hget
    exact Option.some.inj hget
  refine ⟨fun state hstate hinterface ↦ ?_, fun hnot ↦ ?_⟩
  · change state ∈ (m.poller.states input).values at hstate
    rw [values_states] at hstate
    obtain ⟨other, -, rfl⟩ := List.mem_map.mp hstate
    obtain rfl : other = name := hinterface
    exact hstatus
  · refine absurd ?_ hnot
    change name ∈ (m.poller.states input).values.map WANState.interface
    rw [values_states, map_interface_wanState]
    exact hname

theorem reported_process (now : ℤ) (state : WANState)
    (allStates : Option (Dict String WANState)) (m : LocalMonitor) {interval : ℤ}
    {all : Dict String WANState} {remaining : List WANState} {alerts : List AlertEvent} :
    (deliver { m with alertEngine := (m.alertEngine.processWanState now state allStates).1 }
        interval all remaining alerts).reported name =
      if name = state.interface then some state.status else m.reported name := by
  rw [reported, deliver_alertEngine, reported]
  split_ifs with hname
  · subst hname
    exact congrArg (Option.map WANState.status) (Dict.get?_set_self _ _ _)
  · exact congrArg (Option.map WANState.status) (Dict.get?_set_of_ne _ _ hname)

theorem Carries.step (h : Carries name status m) (htrans : Transition m e t o)
    (hname : name ∈ m.poller.wanGateways.keys) (hreport : AllReport name status o)
    (hraise : m.reported name = some status ∨ AllReturn o) : Carries name status t := by
  cases htrans with
  | startPoll hpos =>
      have hprocessed := h.processed
      rw [LocalMonitor.unprocessed, hpos] at hprocessed
      exact ⟨fun _ hstate ↦ (List.not_mem_nil hstate).elim, fun _ ↦ hprocessed List.not_mem_nil⟩
  | polled input interval hpos => exact unprocessed_polled hname hreport
  | @process now interval allStates state remaining hpos =>
      have hunprocessed : m.unprocessed = state :: remaining := by
        rw [LocalMonitor.unprocessed, hpos]
      constructor
      · rw [unprocessed_deliver]
        exact fun s hs ↦ h.unprocessed s (by rw [hunprocessed]; exact List.mem_cons_of_mem _ hs)
      · rw [unprocessed_deliver, reported_process]
        intro hnot
        split_ifs with hself
        · have hmem : state ∈ m.unprocessed := by rw [hunprocessed]; exact List.mem_cons_self
          rw [h.unprocessed state hmem hself.symm]
        · apply h.processed
          rw [hunprocessed, List.map_cons]
          simp [hself, hnot]
  | finish hpos =>
      have hprocessed := h.processed
      rw [LocalMonitor.unprocessed, hpos] at hprocessed
      exact ⟨fun _ hstate ↦ (List.not_mem_nil hstate).elim, fun _ ↦ hprocessed List.not_mem_nil⟩
  | @sendReturned reply ok interval allStates remaining alert later hpos hresult =>
      have hunprocessed : m.unprocessed = remaining := by rw [LocalMonitor.unprocessed, hpos]
      constructor
      · rw [unprocessed_deliver, ← hunprocessed]
        exact h.unprocessed
      · rw [unprocessed_deliver, ← hunprocessed, reported, deliver_alertEngine]
        exact h.processed
  | sendRaised reply hpos hresult =>
      rcases hraise with hkept | hreturn
      · exact ⟨fun _ hstate ↦ (List.not_mem_nil hstate).elim, fun _ ↦ hkept⟩
      · exact absurd rfl (hreturn _ List.mem_cons_self)
  | heartbeat now hsuspended => exact h
  | syslog now event hsuspended => exact ⟨h.unprocessed, h.processed⟩

theorem Transition.polling_of_sleeping (h : Transition m e t o) (hpos : m.position = .sleeping)
    (hown : e.ofPollLoop = true) : ∃ interval, t.position = .polling interval := by
  cases h with
  | startPoll _ => exact ⟨_, rfl⟩
  | polled input interval hother => simp [hpos] at hother
  | process now hother => simp [hpos] at hother
  | finish hother => simp [hpos] at hother
  | sendReturned reply ok hother _ => simp [hpos] at hother
  | sendRaised reply hother _ => simp [hpos] at hother
  | heartbeat now _ => cases hown
  | syslog now event _ => cases hown

/-- While the poll is out the loop waits for its answer. -/
theorem Transition.polling_or_carries (h : Transition m e t o) {interval : ℤ}
    (hpos : m.position = .polling interval) (hname : name ∈ m.poller.wanGateways.keys)
    (hreport : AllReport name status o) :
    (∃ interval, t.position = .polling interval) ∨ Carries name status t := by
  cases h with
  | startPoll hother => simp [hpos] at hother
  | polled input interval _ => exact Or.inr (unprocessed_polled hname hreport)
  | process now hother => simp [hpos] at hother
  | finish hother => simp [hpos] at hother
  | sendReturned reply ok hother _ => simp [hpos] at hother
  | sendRaised reply hother _ => simp [hpos] at hother
  | heartbeat now _ => exact Or.inl ⟨interval, hpos⟩
  | syslog now event _ => exact Or.inl ⟨interval, hpos⟩

/-- What is reported stays, as long as the states at hand say the same. -/
theorem Carries.reported_step (h : Carries name status m) (htrans : Transition m e t o)
    (hreported : m.reported name = some status) : t.reported name = some status := by
  cases htrans with
  | @process now interval allStates state remaining hpos =>
      rw [reported_process]
      split_ifs with hself
      · have hmem : state ∈ m.unprocessed := by
          rw [LocalMonitor.unprocessed, hpos]
          exact List.mem_cons_self
        rw [h.unprocessed state hmem hself.symm]
      · exact hreported
  | sendReturned reply ok hpos hresult =>
      rw [reported, deliver_alertEngine]
      exact hreported
  | _ => exact hreported

section Lap

variable {T : ℤ} {span : List (ℤ × MonitorEvent)}

/-- In a lap the poll is still out, or its state of the WAN is at hand or processed. -/
theorem carries_of_inLap (hm : LoopInvariant config m)
    (hname : name ∈ config.router.wanGateways.keys) (h : realTime.InLap T m span t out) :
    AllReport name status out → AllReturn out → LoopInvariant config t ∧
      ((∃ interval, t.position = .polling interval) ∨ Carries name status t) := by
  induction h with
  | @begin span s t now e out o hbefore hlate hown hasleep hstep =>
      intro _ _
      have hs : LoopInvariant config s := by
        refine Machine.run_induction realTime.step (P := fun _ s _ ↦ LoopInvariant config s) hm ?_
          _ s out hbefore
        intro es s out e t o _ ih hstep
        exact ih.step (transition_of_step hstep)
      have htrans := transition_of_step hstep
      exact ⟨hs.step htrans, Or.inl (htrans.polling_of_sleeping (asleep_realTime.mp hasleep) hown)⟩
  | @go span s t p out o h hawake hstep ih =>
      intro hreport hreturn
      obtain ⟨hs, hcarries⟩ := ih hreport.left hreturn.left
      have htrans : Transition s p.2 t o := transition_of_step hstep
      refine ⟨hs.step htrans, ?_⟩
      rcases hcarries with ⟨interval, hpos⟩ | hcarries
      · exact htrans.polling_or_carries hpos (hs.wanGateways ▸ hname) hreport.right
      · exact Or.inr (hcarries.step htrans (hs.wanGateways ▸ hname) hreport.right
          (Or.inr hreturn.right))

theorem carries_of_lapMade (hm : LoopInvariant config m)
    (hname : name ∈ config.router.wanGateways.keys) (h : realTime.LapMade T m span t out) :
    AllReport name status out → AllReturn out → LoopInvariant config t ∧
      Carries name status t ∧ t.reported name = some status := by
  induction h with
  | @made span t out h hasleep =>
      intro hreport hreturn
      have hpos := asleep_realTime.mp hasleep
      obtain ⟨ht, ⟨interval, hpolling⟩ | hcarries⟩ := carries_of_inLap hm hname h hreport hreturn
      · rw [hpos] at hpolling
        cases hpolling
      · refine ⟨ht, hcarries, hcarries.processed ?_⟩
        simp [unprocessed, hpos]
  | @go span s t p out o h hstep ih =>
      intro hreport hreturn
      obtain ⟨hs, hcarries, hreported⟩ := ih hreport.left hreturn.left
      have htrans : Transition s p.2 t o := transition_of_step hstep
      exact ⟨hs.step htrans, hcarries.step htrans (hs.wanGateways ▸ hname) hreport.right
        (Or.inl hreported), hcarries.reported_step htrans hreported⟩

end Lap

/-- A change of the route is noticed in time.  If every step of the loop (an answer of the
router, a state, a send) comes at most `lag` late and no send raises, then once the clock shows
more than the longest interval and `4 n + 7` times `lag` after a moment since which every poll
reported a status of a configured WAN, where `n` is the number of WANs, a heartbeat reports this
status, and the last alert about the WAN is DOWN exactly if the status is. -/
theorem change_noticed_in_time (config : LocalConfig) (telegram : TelegramNotifier)
    {lag begin : ℤ} {es span : List (ℤ × MonitorEvent)} {s t : Timed LocalMonitor}
    {log log' : List (Entry MonitorEvent MonitorOutput)} {name : String}
    {status : InterfaceStatus} (hlag : 0 ≤ lag)
    (hbefore : Machine.run realTime.timedStep (start (init config telegram) begin) es =
      some (s, log))
    (hrun : Machine.run realTime.timedStep s span = some (t, log'))
    (hprompt : realTime.Prompt lag (start (init config telegram) begin) (es ++ span))
    (hname : name ∈ config.router.wanGateways.keys)
    (hreport : AllReport name status (outputs log')) (hreturn : AllReturn (outputs log'))
    (hlate : s.clock + longestPause config +
      (4 * config.router.wanGateways.keys.length + 7) * lag < t.clock) :
    (∀ now, ((t.state.heartbeatPayload now).wanStates.get? name).map WANState.status =
      some status) ∧
    ((((t.state.handed (outputs (log ++ log'))).filter (isWanAlert name)).map
      AlertEvent.title).getLast? = some (name ++ " DOWN") ↔ status = .down) := by
  have hworks := works_realTime config
  obtain ⟨hprompt₁, hprompt₂⟩ := (Machine.along_append _ hbefore).mp hprompt
  have hsteady := (Task.steady_start hworks hlag (loopInvariant_init config telegram) begin).run
    hworks hlag hbefore hprompt₁
  have hlap := hworks.lapMade hlag hsteady le_rfl hrun hprompt₂ (by push_cast; linarith)
  obtain ⟨-, -, hreported⟩ := carries_of_lapMade hsteady.inv hname hlap hreport hreturn
  have hwhole := Task.run_untimed ((Machine.run_append_eq_some _).mpr
    ⟨s, log, log', hbefore, hrun, rfl⟩)
  refine ⟨fun _ ↦ hreported, ?_⟩
  rw [← heartbeat_down_iff hwhole name 0]
  change t.state.reported name = some .down ↔ _
  rw [hreported, Option.some_inj]

theorem standbyRoute_noticed :
    ∃ t log, Machine.run realTime.timedStep (start (init { router := dualWan } {}) 0)
        standbyRoute = some (t, log) ∧
      (((t.state.handed (outputs log)).filter (isWanAlert "WAN1")).map
        AlertEvent.title).getLast? = some "WAN1 DOWN" := by
  obtain ⟨t, log, hrun, hclock, hreport, hreturn⟩ : ∃ t log,
      Machine.run realTime.timedStep (start (init { router := dualWan } {}) 0)
        standbyRoute = some (t, log) ∧ t.clock = 76000000 ∧
        (polledStates (outputs log)).all (fun states ↦
          (states.get? "WAN1").map WANState.status = some .down) = true ∧
        (sends (outputs log)).all (fun p ↦ p.2 ≠ .raised) = true :=
    ⟨_, _, rfl, rfl, rfl, rfl⟩
  have hprompt : realTime.Prompt 1000000 (start (init { router := dualWan } {}) 0)
      ([] ++ standbyRoute) := by decide +kernel
  have hname : "WAN1" ∈ dualWan.wanGateways.keys := by decide
  have hnoticed := (change_noticed_in_time _ _ (by decide) rfl hrun hprompt hname
    (by simpa [AllReport] using hreport) (by simpa [AllReturn] using hreturn)
    (by rw [hclock]; decide)).2
  exact ⟨t, log, hrun, hnoticed.mpr rfl⟩

end LocalMonitor

end WanRouter
