import WanRouter.Local.SyslogIntake

/-!
# Stopping the monitor

The model of `LocalMonitor.start` and `stop`: the three loops that `start` gathers
and the flag that `stop` clears.  A loop looks at the flag only when an iteration is
over, so the poll in progress is completed.  What is left to do then is counted.
-/

namespace WanRouter

open OrderedDict

def MonitorEvent.ofPollLoop : MonitorEvent → Bool
  | .heartbeat _ => false
  | .syslog _ _ => false
  | _ => true

theorem MonitorEvent.not_isSyslog {e : MonitorEvent} (h : e.ofPollLoop = true) :
    e.isSyslog = false := by
  cases e <;> first | rfl | cases h

/-- What the POST of a heartbeat gives. -/
inductive HttpReply where
  | status (code : ℤ)
  | raised (error : String)

/-- `HeartbeatSender.send` after the payload is built: every exception is caught. -/
def HeartbeatSender.send : HttpReply → Bool
  | .status code => code = 200
  | .raised _ => false

namespace LocalMonitor

/-- The steps that the poll loop still makes in its iteration, at most. -/
def remainingSteps (self : LocalMonitor) : ℕ :=
  match self.position with
  | .sleeping => 0
  | .polling _ => 2 + 2 * self.poller.wanGateways.keys.length
  | .processing _ _ remaining => 1 + 2 * remaining.length
  | .sending _ _ remaining _ later => 2 + later.length + 2 * remaining.length

variable {m m' t : LocalMonitor} {e : MonitorEvent} {es : List MonitorEvent}
  {o out : List MonitorOutput}

theorem remainingSteps_deliver (m : LocalMonitor) (interval : ℤ)
    (allStates : Dict String WANState) (remaining : List WANState) (alerts : List AlertEvent) :
    (m.deliver interval allStates remaining alerts).remainingSteps =
      1 + alerts.length + 2 * remaining.length := by
  cases alerts with
  | nil => rfl
  | cons alert later =>
      simp only [deliver, remainingSteps, List.length_cons]
      omega

theorem Transition.remainingSteps_lt (h : Transition m e m' o) (hpoll : e.ofPollLoop = true)
    (hstart : e.isStartPoll = false) : m'.remainingSteps < m.remainingSteps := by
  cases h with
  | startPoll hpos => cases hstart
  | polled input interval hpos =>
      simp only [remainingSteps, hpos, SNMPPoller.values_states, List.length_map]
      omega
  | @process now interval allStates state remaining hpos =>
      have hone : (m.alertEngine.processWanState now state (some allStates)).2.length ≤ 1 :=
        m.alertEngine.length_processWanState_alerts_le now (some allStates)
      rw [remainingSteps_deliver]
      simp only [remainingSteps, hpos, List.length_cons]
      omega
  | finish hpos => simp [remainingSteps, hpos]
  | @sendReturned reply ok interval allStates remaining alert later hpos hresult =>
      rw [remainingSteps_deliver]
      simp only [remainingSteps, hpos]
      omega
  | sendRaised reply hpos hresult =>
      simp only [remainingSteps, hpos]
      omega
  | heartbeat now hsuspended => cases hpoll
  | syslog now event hsuspended => cases hpoll

/-- Whether a poll is out. -/
def polling (self : LocalMonitor) : ℕ :=
  match self.position with
  | .polling _ => 1
  | _ => 0

theorem polling_deliver (m : LocalMonitor) (interval : ℤ) (allStates : Dict String WANState)
    (remaining : List WANState) (alerts : List AlertEvent) :
    (m.deliver interval allStates remaining alerts).polling = 0 := by
  cases alerts <;> rfl

/-- The poll loop sends no heartbeat, and a poll that is answered was out. -/
theorem Transition.poll_outputs (h : Transition m e m' o) (hpoll : e.ofPollLoop = true)
    (hstart : e.isStartPoll = false) :
    (polledStates o).length + m'.polling ≤ m.polling ∧
      o.filterMap MonitorOutput.heartbeat? = [] ∧
      o.filterMap MonitorOutput.dispatched? = [] := by
  cases h with
  | startPoll hpos => cases hstart
  | polled input interval hpos =>
      exact ⟨by simp [polling, hpos, polledStates, MonitorOutput.polled?], rfl, rfl⟩
  | process now hpos => exact ⟨by simp [polling_deliver, polledStates], rfl, rfl⟩
  | finish hpos => exact ⟨Nat.zero_le _, rfl, rfl⟩
  | sendReturned reply ok hpos hresult =>
      refine ⟨?_, rfl, rfl⟩
      rw [polling_deliver]
      exact Nat.zero_le _
  | sendRaised reply hpos hresult => exact ⟨Nat.zero_le _, rfl, rfl⟩
  | heartbeat now hsuspended => cases hpoll
  | syslog now event hsuspended => cases hpoll

theorem Transition.position_eq (h : Transition m e m' o) (hpoll : e.ofPollLoop = false) :
    m'.position = m.position := by
  cases h <;> first | rfl | cases hpoll

/-- An iteration that has begun can go on. -/
theorem exists_poll_step (m : LocalMonitor) :
    m.position = .sleeping ∨ ∃ e m' o, e.ofPollLoop = true ∧ e.isStartPoll = false ∧
      m.step e = some (m', o) := by
  cases hpos : m.position with
  | sleeping => exact Or.inl rfl
  | polling interval =>
      obtain ⟨m', o, hstep⟩ : ∃ m' o, m.step (.polled ⟨0, .raised, fun _ ↦ .raised⟩) =
          some (m', o) := by simp [step, hpos]
      exact Or.inr ⟨_, m', o, rfl, rfl, hstep⟩
  | processing interval allStates remaining =>
      cases remaining with
      | nil =>
          obtain ⟨m', o, hstep⟩ : ∃ m' o, m.step .finish = some (m', o) := by simp [step, hpos]
          exact Or.inr ⟨_, m', o, rfl, rfl, hstep⟩
      | cons state remaining =>
          obtain ⟨m', o, hstep⟩ : ∃ m' o, m.step (.process 0) = some (m', o) := by
            simp [step, hpos]
          exact Or.inr ⟨_, m', o, rfl, rfl, hstep⟩
  | sending interval allStates remaining alert later =>
      obtain ⟨m', o, hstep⟩ : ∃ m' o, m.step (.sendDone .delivered) = some (m', o) := by
        cases hresult : m.telegram.sendAlert alert .delivered <;> simp [step, hpos, hresult]
      exact Or.inr ⟨_, m', o, rfl, rfl, hstep⟩

theorem Transition.wanGateways_eq (h : Transition m e m' o) :
    m'.poller.wanGateways = m.poller.wanGateways := by
  cases h with
  | process now hpos => rw [deliver_poller]
  | sendReturned reply ok hpos hresult => rw [deliver_poller]
  | _ => rfl

/-- An iteration takes at most two steps for each WAN and two more. -/
theorem Transition.remainingSteps_le (h : Transition m e m' o) {wanGateways : Dict String String}
    (hgateways : m.poller.wanGateways = wanGateways)
    (hle : m.remainingSteps ≤ 2 + 2 * wanGateways.keys.length) :
    m'.remainingSteps ≤ 2 + 2 * wanGateways.keys.length := by
  cases hpoll : e.ofPollLoop with
  | false =>
      have hsame : m'.remainingSteps = m.remainingSteps := by
        simp only [remainingSteps, h.position_eq hpoll, h.wanGateways_eq]
      rwa [hsame]
  | true =>
      cases hstart : e.isStartPoll with
      | false => exact (h.remainingSteps_lt hpoll hstart).le.trans hle
      | true =>
          cases h with
          | startPoll hpos => simp [remainingSteps, hgateways]
          | _ => cases hstart

theorem remainingSteps_le {config : LocalConfig} {telegram : TelegramNotifier}
    (hrun : Machine.run step (init config telegram) es = some (t, out)) :
    t.remainingSteps ≤ 2 + 2 * config.router.wanGateways.keys.length := by
  refine (Machine.run_induction step
    (P := fun _ t _ ↦ t.poller.wanGateways = config.router.wanGateways ∧
      t.remainingSteps ≤ 2 + 2 * config.router.wanGateways.keys.length)
    ⟨rfl, Nat.zero_le _⟩ ?_ es t out hrun).2
  rintro es m out e t o - ⟨hgateways, hle⟩ hstep
  have htransition := transition_of_step hstep
  exact ⟨htransition.wanGateways_eq.trans hgateways,
    htransition.remainingSteps_le hgateways hle⟩

end LocalMonitor

/-! ## The loops and the flag -/

/-- Where `_heartbeat_loop` stands.  It starts like a loop whose sleep is over. -/
inductive HeartbeatPosition where
  | sleeping
  | sending
  | returned
  deriving DecidableEq

/-- Where `_status_loop` stands. -/
inductive StatusPosition where
  | starting
  | sleeping
  | returned
  deriving DecidableEq

/-- A `LocalMonitor` whose `start` has opened the socket and gathered the loops. -/
structure LocalService where
  listening : ListeningMonitor
  running : Bool := true
  /-- Whether the socket of the receiver is open. -/
  transport : Bool := true
  pollReturned : Bool := false
  heartbeat : HeartbeatPosition := .sleeping
  status : StatusPosition := .starting

inductive ServiceEvent where
  | poll (event : {event : MonitorEvent // event.ofPollLoop = true})
  /-- The poll loop finds the flag cleared. -/
  | pollReturn
  | heartbeatWake (now : ℤ)
  | heartbeatSent (reply : HttpReply)
  | statusWake
  | arrived (a : Arrival)
  | stop

inductive ServiceOutput where
  | intake (output : IntakeOutput)
  | heartbeatSlept (seconds : ℤ)

def ServiceEvent.isStop : ServiceEvent → Bool
  | .stop => true
  | _ => false

def ServiceOutput.intake? : ServiceOutput → Option IntakeOutput
  | .intake output => some output
  | .heartbeatSlept _ => none

namespace LocalService

def init (config : LocalConfig) (telegram : TelegramNotifier) : LocalService where
  listening := ListeningMonitor.init config telegram

def suspended (self : LocalService) : Bool := self.listening.monitor.suspended

/-- Whether the poll loop is at the top of its `while`. -/
def pollIdle (self : LocalService) : Bool :=
  match self.listening.monitor.position with
  | .sleeping => true
  | _ => false

/-- A step inside the monitor. -/
def inner (u : UnicodeData) (self : LocalService) (event : IntakeEvent) :
    Option (LocalService × List ServiceOutput) :=
  (self.listening.step u event).map fun p ↦ ({ self with listening := p.1 }, p.2.map .intake)

def step (u : UnicodeData) (self : LocalService) :
    ServiceEvent → Option (LocalService × List ServiceOutput)
  | .poll event =>
      if self.pollReturned || (event.1.isStartPoll && !self.running) then none
      else self.inner u (.loops ⟨event, MonitorEvent.not_isSyslog event.2⟩)
  | .pollReturn =>
      if !self.pollReturned && self.pollIdle && !self.running then
        some ({ self with pollReturned := true }, [])
      else none
  | .heartbeatWake now =>
      match self.heartbeat with
      | .sleeping =>
          if self.running then
            { self with heartbeat := .sending }.inner u (.loops ⟨.heartbeat now, rfl⟩)
          else if self.suspended then some ({ self with heartbeat := .returned }, [])
          else none
      | _ => none
  | .heartbeatSent reply =>
      match self.heartbeat with
      | .sending =>
          -- what `send` returned is not looked at
          let _sent := HeartbeatSender.send reply
          if self.suspended then
            some ({ self with heartbeat := .sleeping },
              [.heartbeatSlept self.listening.monitor.config.heartbeat.interval])
          else none
      | _ => none
  | .statusWake =>
      let position := if self.running then .sleeping else .returned
      match self.status with
      | .starting =>
          if self.suspended then some ({ self with status := position }, []) else none
      | .sleeping => { self with status := position }.inner u .status
      | .returned => none
  | .arrived a => if self.transport then self.inner u (.arrived a) else none
  | .stop =>
      if self.suspended then some ({ self with running := false, transport := false }, [])
      else none

/-- All three loops have returned, and so does `start`. -/
def Returned (self : LocalService) : Prop :=
  self.pollReturned = true ∧ self.heartbeat = .returned ∧ self.status = .returned

/-! ## What a step can do -/

inductive Transition (u : UnicodeData) (s : LocalService) :
    ServiceEvent → LocalService → List ServiceOutput → Prop
  | poll (event : {event : MonitorEvent // event.ofPollLoop = true}) {l : ListeningMonitor}
      {o : List IntakeOutput} (hreturned : s.pollReturned = false)
      (hstart : event.1.isStartPoll = true → s.running = true)
      (hinner : s.listening.step u (.loops ⟨event, MonitorEvent.not_isSyslog event.2⟩) =
        some (l, o)) :
      Transition u s (.poll event) { s with listening := l } (o.map .intake)
  | pollReturn (hreturned : s.pollReturned = false)
      (hpos : s.listening.monitor.position = .sleeping) (hrunning : s.running = false) :
      Transition u s .pollReturn { s with pollReturned := true } []
  | heartbeat (now : ℤ) {l : ListeningMonitor} {o : List IntakeOutput}
      (hpos : s.heartbeat = .sleeping) (hrunning : s.running = true)
      (hinner : s.listening.step u (.loops ⟨.heartbeat now, rfl⟩) = some (l, o)) :
      Transition u s (.heartbeatWake now) { s with heartbeat := .sending, listening := l }
        (o.map .intake)
  | heartbeatReturn (now : ℤ) (hpos : s.heartbeat = .sleeping) (hrunning : s.running = false) :
      Transition u s (.heartbeatWake now) { s with heartbeat := .returned } []
  | heartbeatSent (reply : HttpReply) (hpos : s.heartbeat = .sending) :
      Transition u s (.heartbeatSent reply) { s with heartbeat := .sleeping }
        [.heartbeatSlept s.listening.monitor.config.heartbeat.interval]
  | statusBegin (hpos : s.status = .starting) :
      Transition u s .statusWake
        { s with status := if s.running then .sleeping else .returned } []
  | statusWake {l : ListeningMonitor} {o : List IntakeOutput} (hpos : s.status = .sleeping)
      (hinner : s.listening.step u .status = some (l, o)) :
      Transition u s .statusWake
        { s with status := if s.running then .sleeping else .returned, listening := l }
        (o.map .intake)
  | arrived (a : Arrival) {l : ListeningMonitor} {o : List IntakeOutput}
      (htransport : s.transport = true) (hinner : s.listening.step u (.arrived a) = some (l, o)) :
      Transition u s (.arrived a) { s with listening := l } (o.map .intake)
  | stop : Transition u s .stop { s with running := false, transport := false } []

variable {u : UnicodeData} {s s' t : LocalService} {e : ServiceEvent} {es : List ServiceEvent}
  {out o : List ServiceOutput}

theorem position_of_pollIdle (h : s.pollIdle = true) :
    s.listening.monitor.position = .sleeping := by
  cases hpos : s.listening.monitor.position with
  | sleeping => rfl
  | _ => simp [pollIdle, hpos] at h

theorem inner_eq_some {event : IntakeEvent} (h : s.inner u event = some (s', o)) :
    ∃ l o', s.listening.step u event = some (l, o') ∧ s' = { s with listening := l } ∧
      o = o'.map .intake := by
  obtain ⟨⟨l, o'⟩, hinner, heq⟩ := Option.map_eq_some_iff.mp h
  cases heq
  exact ⟨l, o', hinner, rfl, rfl⟩

theorem transition_of_step (h : s.step u e = some (s', o)) : Transition u s e s' o := by
  cases e with
  | poll event =>
      rw [step] at h
      split_ifs at h with hguard
      obtain ⟨l, o', hinner, rfl, rfl⟩ := inner_eq_some h
      simp only [Bool.or_eq_true, Bool.and_eq_true, Bool.not_eq_true', not_or, not_and,
        Bool.not_eq_true, Bool.not_eq_false] at hguard
      exact .poll event hguard.1 hguard.2 hinner
  | pollReturn =>
      simp only [step, Option.ite_none_right_eq_some, Bool.and_eq_true, Bool.not_eq_true'] at h
      obtain ⟨⟨⟨hreturned, hidle⟩, hrunning⟩, heq⟩ := h
      cases heq
      exact .pollReturn hreturned (position_of_pollIdle hidle) hrunning
  | heartbeatWake now =>
      cases hpos : s.heartbeat with
      | sleeping =>
          cases hrunning : s.running with
          | true =>
              simp only [step, hpos, hrunning, if_true] at h
              obtain ⟨l, o', hinner, rfl, rfl⟩ := inner_eq_some h
              have hwoken := Transition.heartbeat now hpos hrunning hinner
              rwa [hrunning] at hwoken
          | false =>
              simp only [step, hpos, hrunning, Bool.false_eq_true, if_false,
                Option.ite_none_right_eq_some] at h
              obtain ⟨-, heq⟩ := h
              cases heq
              have hreturn := Transition.heartbeatReturn (u := u) now hpos hrunning
              rwa [hrunning] at hreturn
      | _ => simp [step, hpos] at h
  | heartbeatSent reply =>
      cases hpos : s.heartbeat with
      | sending =>
          simp only [step, hpos, Option.ite_none_right_eq_some] at h
          obtain ⟨-, heq⟩ := h
          cases heq
          exact .heartbeatSent reply hpos
      | _ => simp [step, hpos] at h
  | statusWake =>
      cases hpos : s.status with
      | starting =>
          simp only [step, hpos, Option.ite_none_right_eq_some] at h
          obtain ⟨-, heq⟩ := h
          cases heq
          exact .statusBegin hpos
      | sleeping =>
          simp only [step, hpos] at h
          obtain ⟨l, o', hinner, rfl, rfl⟩ := inner_eq_some h
          exact .statusWake hpos hinner
      | returned => simp [step, hpos] at h
  | arrived a =>
      simp only [step, Option.ite_none_right_eq_some] at h
      obtain ⟨htransport, harrived⟩ := h
      obtain ⟨l, o', hinner, rfl, rfl⟩ := inner_eq_some harrived
      exact .arrived a htransport hinner
  | stop =>
      simp only [step, Option.ite_none_right_eq_some] at h
      obtain ⟨-, heq⟩ := h
      cases heq
      exact .stop

/-! ## What is left after a stop -/

def intakes (out : List ServiceOutput) : List IntakeOutput := out.filterMap ServiceOutput.intake?

/-- What the monitor itself gives out. -/
def monitorOutputs (out : List ServiceOutput) : List MonitorOutput :=
  (intakes out).filterMap IntakeOutput.monitor?

def heartbeats (out : List ServiceOutput) : List HeartbeatPayload :=
  (monitorOutputs out).filterMap MonitorOutput.heartbeat?

def polls (out : List ServiceOutput) : List (Dict String WANState) :=
  LocalMonitor.polledStates (monitorOutputs out)

def heartbeatSteps : HeartbeatPosition → ℕ
  | .sleeping => 1
  | .sending => 2
  | .returned => 0

def statusSteps : StatusPosition → ℕ
  | .starting => 1
  | .sleeping => 1
  | .returned => 0

/-- The count that is still to be read. -/
def countsLeft : StatusPosition → ℕ
  | .sleeping => 1
  | _ => 0

/-- The steps until the loops have returned, once the flag is cleared. -/
def stepsLeft (self : LocalService) : ℕ :=
  self.listening.monitor.remainingSteps + (if self.pollReturned then 0 else 1) +
    heartbeatSteps self.heartbeat + statusSteps self.status

/-- What holds since a stop at `s`. -/
structure Draining (s : LocalService) (es : List ServiceEvent) (t : LocalService)
    (o : List ServiceOutput) : Prop where
  stopped : t.running = false
  closed : t.transport = false
  steps : es.countP (!·.isStop) + t.stepsLeft ≤ s.stepsLeft
  polls : (polls o).length + t.listening.monitor.polling ≤ s.listening.monitor.polling
  counts : (ListeningMonitor.counts (intakes o)).length + countsLeft t.status ≤ countsLeft s.status
  heartbeats : heartbeats o = []
  dispatched : ListeningMonitor.dispatched (intakes o) = []

theorem loops_eq_some {l l' : ListeningMonitor} {event : MonitorEvent}
    {hevent : event.isSyslog = false} {o : List IntakeOutput}
    (h : l.step u (.loops ⟨event, hevent⟩) = some (l', o)) :
    ∃ m o', l.monitor.step event = some (m, o') ∧ l' = { l with monitor := m } ∧
      o = o'.map .monitor := by
  obtain ⟨⟨m, o'⟩, hstep, heq⟩ := Option.map_eq_some_iff.mp h
  cases heq
  exact ⟨m, o', hstep, rfl, rfl⟩

theorem status_eq_some {l l' : ListeningMonitor} {o : List IntakeOutput}
    (h : l.step u .status = some (l', o)) :
    l'.monitor = l.monitor ∧ o = [.receiver (.count l.receiver.resetCount.2)] := by
  obtain ⟨-, heq⟩ := Option.ite_none_right_eq_some.mp h
  cases heq
  exact ⟨rfl, rfl⟩

theorem intakes_append (out o : List ServiceOutput) :
    intakes (out ++ o) = intakes out ++ intakes o := List.filterMap_append

theorem intakes_map (o : List IntakeOutput) : intakes (o.map .intake) = o := by
  simp [intakes, List.filterMap_map, Function.comp_def, ServiceOutput.intake?]

theorem heartbeats_append (out o : List ServiceOutput) :
    heartbeats (out ++ o) = heartbeats out ++ heartbeats o := by
  simp [heartbeats, monitorOutputs, intakes_append, List.filterMap_append]

theorem polls_append (out o : List ServiceOutput) : polls (out ++ o) = polls out ++ polls o := by
  simp [polls, monitorOutputs, intakes_append, List.filterMap_append,
    LocalMonitor.polledStates_append]

/-- The outputs of a step, added to those before it. -/
theorem Draining.concat (h : Draining s es t out) {t' : LocalService}
    (hrunning : t'.running = false) (htransport : t'.transport = false)
    (hsteps : [e].countP (!·.isStop) + t'.stepsLeft ≤ t.stepsLeft)
    (hpolls : (LocalService.polls o).length + t'.listening.monitor.polling ≤
      t.listening.monitor.polling)
    (hcounts : (ListeningMonitor.counts (intakes o)).length + countsLeft t'.status ≤
      countsLeft t.status)
    (hheartbeats : LocalService.heartbeats o = [])
    (hdispatched : ListeningMonitor.dispatched (intakes o) = []) :
    Draining s (es ++ [e]) t' (out ++ o) where
  stopped := hrunning
  closed := htransport
  steps := by
    have hbefore := h.steps
    rw [List.countP_append]
    omega
  polls := by
    have hbefore := h.polls
    rw [polls_append, List.length_append]
    omega
  counts := by
    have hbefore := h.counts
    rw [intakes_append, ListeningMonitor.counts_append, List.length_append]
    omega
  heartbeats := by rw [heartbeats_append, h.heartbeats, hheartbeats, List.append_nil]
  dispatched := by
    rw [intakes_append, ListeningMonitor.dispatched_append, h.dispatched, hdispatched,
      List.append_nil]

/-- A step outside the monitor. -/
theorem Draining.quiet (h : Draining s es t out) {t' : LocalService}
    (hrunning : t'.running = false) (htransport : t'.transport = false)
    (hsteps : [e].countP (!·.isStop) + t'.stepsLeft ≤ t.stepsLeft)
    (hmonitor : t'.listening.monitor = t.listening.monitor)
    (hcounts : countsLeft t'.status ≤ countsLeft t.status) (hnone : intakes o = []) :
    Draining s (es ++ [e]) t' (out ++ o) := by
  refine h.concat hrunning htransport hsteps ?_ ?_ ?_ ?_
  · simp [LocalService.polls, monitorOutputs, hnone, hmonitor, LocalMonitor.polledStates]
  · simpa [hnone, ListeningMonitor.counts] using hcounts
  · simp [LocalService.heartbeats, monitorOutputs, hnone]
  · simp [hnone, ListeningMonitor.dispatched]

theorem Draining.step (h : Draining s es t out) (hstep : t.step u e = some (s', o)) :
    Draining s (es ++ [e]) s' (out ++ o) := by
  have hstopped := h.stopped
  cases transition_of_step hstep with
  | poll event hreturned hstart hinner =>
      obtain ⟨m, o', hmonitor, rfl, rfl⟩ := loops_eq_some hinner
      have hidle : event.1.isStartPoll = false := by
        cases hevent : event.1.isStartPoll with
        | false => rfl
        | true => rw [hstart hevent] at hstopped; cases hstopped
      have htransition := LocalMonitor.transition_of_step hmonitor
      have hless := htransition.remainingSteps_lt event.2 hidle
      obtain ⟨hpolls, hheartbeats, hdispatched⟩ := htransition.poll_outputs event.2 hidle
      have hintakes := intakes_map (o'.map IntakeOutput.monitor)
      have houtputs : monitorOutputs ((o'.map IntakeOutput.monitor).map .intake) = o' := by
        rw [monitorOutputs, hintakes, ListeningMonitor.filterMap_monitor]
      refine h.concat hstopped h.closed ?_ ?_ ?_ ?_ ?_
      · simp only [stepsLeft, List.countP_singleton, ServiceEvent.isStop, Bool.not_false, if_true]
        omega
      · rwa [LocalService.polls, houtputs]
      · rw [hintakes, ListeningMonitor.counts, ListeningMonitor.filterMap_receiver_monitor]
        exact le_of_eq (Nat.zero_add _)
      · rwa [LocalService.heartbeats, houtputs]
      · rwa [hintakes, ListeningMonitor.dispatched, ListeningMonitor.filterMap_monitor]
  | pollReturn hreturned hpos hrunning =>
      refine h.quiet hstopped h.closed ?_ rfl le_rfl rfl
      simp [stepsLeft, hreturned, ServiceEvent.isStop]
      omega
  | heartbeat now hpos hrunning hinner =>
      rw [hrunning] at hstopped
      cases hstopped
  | heartbeatReturn now hpos hrunning =>
      refine h.quiet hstopped h.closed ?_ rfl le_rfl rfl
      simp [stepsLeft, hpos, heartbeatSteps, ServiceEvent.isStop]
      omega
  | heartbeatSent reply hpos =>
      refine h.quiet hstopped h.closed ?_ rfl le_rfl rfl
      simp [stepsLeft, hpos, heartbeatSteps, ServiceEvent.isStop]
      omega
  | statusBegin hpos =>
      refine h.quiet hstopped h.closed ?_ rfl ?_ rfl
      · simp [stepsLeft, hpos, hstopped, statusSteps, ServiceEvent.isStop]
        omega
      · simp [hstopped, countsLeft]
  | @statusWake l o' hpos hinner =>
      obtain ⟨hmonitor, rfl⟩ := status_eq_some hinner
      refine h.concat hstopped h.closed ?_ ?_ ?_ rfl rfl
      · simp [stepsLeft, hpos, hstopped, hmonitor, statusSteps, ServiceEvent.isStop]
        omega
      · rw [hmonitor]
        exact le_of_eq (Nat.zero_add _)
      · simp [hpos, hstopped, countsLeft, ListeningMonitor.counts, intakes,
          ServiceOutput.intake?, IntakeOutput.receiver?, ReceiverOutput.count?]
  | arrived a htransport hinner =>
      rw [h.closed] at htransport
      cases htransport
  | stop => exact h.quiet rfl rfl (by simp [stepsLeft, ServiceEvent.isStop]) rfl le_rfl rfl

/-! ## Reachable states -/

variable {config : LocalConfig} {telegram : TelegramNotifier}

/-- A step of the service is at most one step of the monitor. -/
theorem Transition.listening (h : Transition u s e s' o) :
    ∃ events, Machine.run (ListeningMonitor.step u) s.listening events =
      some (s'.listening, intakes o) := by
  cases h with
  | poll event hreturned hstart hinner =>
      exact ⟨[_], by rw [Machine.run_singleton, intakes_map]; exact hinner⟩
  | heartbeat now hpos hrunning hinner =>
      exact ⟨[_], by rw [Machine.run_singleton, intakes_map]; exact hinner⟩
  | statusWake hpos hinner =>
      exact ⟨[_], by rw [Machine.run_singleton, intakes_map]; exact hinner⟩
  | arrived a htransport hinner =>
      exact ⟨[_], by rw [Machine.run_singleton, intakes_map]; exact hinner⟩
  | _ => exact ⟨[], rfl⟩

/-- What the service does is a run of the monitor. -/
theorem listening_run (hrun : Machine.run (step u) (init config telegram) es = some (s, out)) :
    ∃ events, Machine.run (ListeningMonitor.step u) (ListeningMonitor.init config telegram) events =
      some (s.listening, intakes out) := by
  refine Machine.run_induction (step u)
    (P := fun _ s out ↦ ∃ events, Machine.run (ListeningMonitor.step u)
      (ListeningMonitor.init config telegram) events = some (s.listening, intakes out))
    ⟨[], Machine.run_nil _ _⟩ ?_ es s out hrun
  rintro es s out e t o - ⟨events, hbefore⟩ hstep
  obtain ⟨last, hlast⟩ := (transition_of_step hstep).listening
  refine ⟨events ++ last, ?_⟩
  rw [Machine.run_append_eq_some]
  exact ⟨_, _, _, hbefore, hlast, intakes_append out o⟩

/-- The flag and the socket agree, and the poll loop returns between two polls only. -/
structure Consistent (s : LocalService) : Prop where
  transport : s.transport = s.running
  returned : s.pollReturned = true →
    s.running = false ∧ s.listening.monitor.position = .sleeping

theorem position_syslog_run {m t : LocalMonitor} {events : List MonitorEvent}
    {o : List MonitorOutput} (hevents : ∀ e ∈ events, e.ofPollLoop = false)
    (hrun : Machine.run LocalMonitor.step m events = some (t, o)) : t.position = m.position := by
  induction events generalizing m o with
  | nil =>
      cases hrun
      rfl
  | cons e events ih =>
      obtain ⟨m', o', o'', hfirst, hrest, rfl⟩ := (Machine.run_cons_eq_some _).mp hrun
      rw [ih (fun e he ↦ hevents e (List.mem_cons_of_mem _ he)) hrest]
      exact (LocalMonitor.transition_of_step hfirst).position_eq (hevents e (by simp))

theorem position_arrived {l l' : ListeningMonitor} {a : Arrival} {o : List IntakeOutput}
    (h : l.step u (.arrived a) = some (l', o)) : l'.monitor.position = l.monitor.position := by
  obtain ⟨-, h⟩ := Option.ite_none_right_eq_some.mp h
  obtain ⟨⟨m, o'⟩, hrun, heq⟩ := Option.map_eq_some_iff.mp h
  generalize l.receiver.datagramReceived u a.datagram = received at hrun heq
  cases heq
  apply position_syslog_run _ hrun
  intro e he
  obtain ⟨d, -, rfl⟩ := List.mem_map.mp he
  rfl

theorem Consistent.step (h : Consistent s) (hstep : s.step u e = some (s', o)) :
    Consistent s' := by
  cases transition_of_step hstep with
  | poll event hreturned hstart hinner =>
      refine ⟨h.transport, fun hdone ↦ ?_⟩
      rw [hreturned] at hdone
      cases hdone
  | pollReturn hreturned hpos hrunning => exact ⟨h.transport, fun _ ↦ ⟨hrunning, hpos⟩⟩
  | heartbeat now hpos hrunning hinner =>
      refine ⟨h.transport, fun hdone ↦ ?_⟩
      rw [(h.returned hdone).1] at hrunning
      cases hrunning
  | @statusWake l o' hpos hinner =>
      obtain ⟨hmonitor, -⟩ := status_eq_some hinner
      refine ⟨h.transport, fun hdone ↦ ⟨(h.returned hdone).1, ?_⟩⟩
      rw [hmonitor]
      exact (h.returned hdone).2
  | arrived a htransport hinner =>
      refine ⟨h.transport, fun hdone ↦ ⟨(h.returned hdone).1, ?_⟩⟩
      rw [position_arrived hinner]
      exact (h.returned hdone).2
  | stop => exact ⟨rfl, fun hdone ↦ ⟨rfl, (h.returned hdone).2⟩⟩
  | _ => exact ⟨h.transport, h.returned⟩

theorem consistent_run (hrun : Machine.run (step u) (init config telegram) es = some (s, out)) :
    Consistent s := by
  refine Machine.run_induction (step u) (P := fun _ s _ ↦ Consistent s)
    ⟨rfl, fun h ↦ by cases h⟩ ?_ es s out hrun
  intro es s out e t o _ h hstep
  exact h.step hstep

theorem exists_step_of_pollReturned (u : UnicodeData) (hreturned : s.pollReturned = true)
    (hstopped : s.running = false) (hpos : s.listening.monitor.position = .sleeping) :
    s.Returned ∨ ∃ e s' o, e.isStop = false ∧ s.step u e = some (s', o) := by
  have hsuspended : s.suspended = true := by rw [suspended, LocalMonitor.suspended, hpos]
  cases hheartbeat : s.heartbeat with
  | sleeping =>
      obtain ⟨s', o, hstep⟩ : ∃ s' o, s.step u (.heartbeatWake 0) = some (s', o) := by
        simp [step, hheartbeat, hstopped, hsuspended]
      exact Or.inr ⟨_, s', o, rfl, hstep⟩
  | sending =>
      obtain ⟨s', o, hstep⟩ : ∃ s' o, s.step u (.heartbeatSent (.status 200)) = some (s', o) := by
        simp [step, hheartbeat, hsuspended]
      exact Or.inr ⟨_, s', o, rfl, hstep⟩
  | returned =>
      cases hstatus : s.status with
      | starting =>
          obtain ⟨s', o, hstep⟩ : ∃ s' o, s.step u .statusWake = some (s', o) := by
            simp [step, hstatus, hsuspended]
          exact Or.inr ⟨_, s', o, rfl, hstep⟩
      | sleeping =>
          have hmonitor : s.listening.monitor.suspended = true := hsuspended
          obtain ⟨s', o, hstep⟩ : ∃ s' o, s.step u .statusWake = some (s', o) := by
            simp [step, hstatus, inner, ListeningMonitor.step, hmonitor]
          exact Or.inr ⟨_, s', o, rfl, hstep⟩
      | returned => exact Or.inl ⟨hreturned, hheartbeat, hstatus⟩

/-- While a loop has not returned, a step is left that is no further stop. -/
theorem exists_step (u : UnicodeData) (h : Consistent s) (hstopped : s.running = false) :
    s.Returned ∨ ∃ e s' o, e.isStop = false ∧ s.step u e = some (s', o) := by
  cases hreturned : s.pollReturned with
  | true => exact exists_step_of_pollReturned u hreturned hstopped (h.returned hreturned).2
  | false =>
      rcases s.listening.monitor.exists_poll_step with hpos | ⟨e, m, o, hpoll, hstart, hmonitor⟩
      · obtain ⟨s', o, hstep⟩ : ∃ s' o, s.step u .pollReturn = some (s', o) := by
          simp [step, hreturned, pollIdle, hpos, hstopped]
        exact Or.inr ⟨_, s', o, rfl, hstep⟩
      · obtain ⟨s', o', hstep⟩ : ∃ s' o', s.step u (.poll ⟨e, hpoll⟩) = some (s', o') := by
          simp [step, hreturned, hstart, inner, ListeningMonitor.step, hmonitor]
        exact Or.inr ⟨_, s', o', rfl, hstep⟩

/-- The steps that are left after a stop are at most two for each WAN and six more. -/
theorem stepsLeft_le (hrun : Machine.run (step u) (init config telegram) es = some (s, out)) :
    s.stepsLeft ≤ 2 * config.router.wanGateways.keys.length + 6 := by
  obtain ⟨events, hlistening⟩ := listening_run hrun
  obtain ⟨hmonitor, -⟩ := ListeningMonitor.monitor_run hlistening
  have hle := LocalMonitor.remainingSteps_le hmonitor
  have hheartbeat : heartbeatSteps s.heartbeat ≤ 2 := by cases s.heartbeat <;> simp [heartbeatSteps]
  have hstatus : statusSteps s.status ≤ 1 := by cases s.status <;> simp [statusSteps]
  rw [stepsLeft]
  split_ifs <;> omega

/-- After a stop the service does little more, and it can always go on until all its loops have
returned: at most two steps for each WAN and six more, among them no heartbeat, no alert of a
syslog message, no poll but the one that was out and one reading of the count.  The poll
loop does not return before the poll in progress is completed. -/
theorem stopped_service_returns (u : UnicodeData) (config : LocalConfig)
    (telegram : TelegramNotifier) {es es' : List ServiceEvent} {s t : LocalService}
    {out o : List ServiceOutput}
    (hbefore : Machine.run (step u) (init config telegram) es = some (s, out))
    (hstopped : s.running = false) (hrun : Machine.run (step u) s es' = some (t, o)) :
    es'.countP (!·.isStop) ≤ 2 * config.router.wanGateways.keys.length + 6 ∧
      heartbeats o = [] ∧ ListeningMonitor.dispatched (intakes o) = [] ∧
      (polls o).length ≤ s.listening.monitor.polling ∧
      (ListeningMonitor.counts (intakes o)).length ≤ 1 ∧
      (t.Returned ∨ ∃ e t' o', e.isStop = false ∧ t.step u e = some (t', o')) ∧
      (t.Returned → t.listening.monitor.position = .sleeping) := by
  have hconsistent : Consistent s := consistent_run hbefore
  have hdraining : Draining s es' t o ∧ Consistent t := by
    refine Machine.run_induction (step u) (P := fun es' t o ↦ Draining s es' t o ∧ Consistent t)
      ⟨⟨hstopped, hconsistent.transport.trans hstopped, by simp, ?_, ?_, rfl, rfl⟩, hconsistent⟩ ?_
      es' t o hrun
    · exact le_of_eq (Nat.zero_add _)
    · exact le_of_eq (Nat.zero_add _)
    · rintro es' t o e t' o' - ⟨h, hconsistent⟩ hstep
      exact ⟨h.step hstep, hconsistent.step hstep⟩
  obtain ⟨h, hconsistent⟩ := hdraining
  have hsteps := h.steps
  have hbound := stepsLeft_le hbefore
  have hpolls := h.polls
  have hcounts := h.counts
  have hone : countsLeft s.status ≤ 1 := by cases s.status <;> simp [countsLeft]
  refine ⟨by omega, h.heartbeats, h.dispatched, by omega, by omega,
    exists_step u hconsistent h.stopped, fun hreturned ↦ (hconsistent.returned hreturned.1).2⟩

/-- A stop while a poll and a heartbeat are out, and the steps after it. -/
def stoppedDuringPoll : List ServiceEvent :=
  [.statusWake, .poll ⟨.startPoll, rfl⟩, .heartbeatWake 0, .stop]

def stepsAfterStop : List ServiceEvent :=
  [.poll ⟨.polled (Round.answering "10.0.0.1").input, rfl⟩, .poll ⟨.process 0, rfl⟩,
    .poll ⟨.process 0, rfl⟩, .heartbeatSent (.status 200), .poll ⟨.sendDone .delivered, rfl⟩,
    .poll ⟨.finish, rfl⟩, .pollReturn, .heartbeatWake 1, .statusWake]

theorem stoppedDuringPoll_returns :
    ∃ s out t o, Machine.run (step .ascii) (init { router := dualWan } {}) stoppedDuringPoll =
        some (s, out) ∧
      Machine.run (step .ascii) s stepsAfterStop = some (t, o) ∧
      stepsAfterStop.countP (!·.isStop) ≤ 10 ∧ t.Returned ∧
      t.listening.monitor.position = .sleeping := by
  obtain ⟨s, out, t, o, hbefore, hstopped, hrun, hreturned⟩ : ∃ s out t o,
      Machine.run (step .ascii) (init { router := dualWan } {}) stoppedDuringPoll =
          some (s, out) ∧ s.running = false ∧
        Machine.run (step .ascii) s stepsAfterStop = some (t, o) ∧ t.Returned := by
    refine ⟨_, _, _, _, rfl, rfl, rfl, ?_⟩
    exact ⟨rfl, rfl, rfl⟩
  obtain ⟨hsteps, -, -, -, -, -, hpos⟩ := stopped_service_returns _ _ _ hbefore hstopped hrun
  exact ⟨s, out, t, o, hbefore, hrun, hsteps, hreturned, hpos hreturned⟩

end LocalService

end WanRouter
