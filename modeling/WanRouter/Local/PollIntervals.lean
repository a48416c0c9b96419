import WanRouter.Local.AdaptivePolling
import WanRouter.Local.Deliveries

/-!
# The sleep after a poll

`_poll_loop` chooses the interval before it polls and sleeps after it has processed
the states.  So the sleep follows the engine that the iteration found, and it
agrees with the engine that the iteration leaves only where the poll did not
change the choice.
-/

namespace WanRouter

open OrderedDict EdgeDetector SNMPPoller

def MonitorEvent.input? : MonitorEvent → Option PollInput
  | .polled input => some input
  | _ => none

namespace LocalMonitor

/-- What the polls of a run were answered. -/
def inputs (es : List MonitorEvent) : List PollInput := es.filterMap MonitorEvent.input?

/-- An iteration together with the answers to its poll and its sleeps. -/
def IteratesSleeping (m : LocalMonitor) (input : PollInput) (r : IterationRecord)
    (sleeps : List ℤ) (m' : LocalMonitor) : Prop :=
  ∃ es out, Machine.run step m es = some (m', out) ∧ es.countP MonitorEvent.isStartPoll = 1 ∧
    m.position = .sleeping ∧ m'.position = .sleeping ∧
    polledStates out = [r.polled] ∧ sends out = r.sends ∧
    r.processed = r.polled.keys.take (es.countP MonitorEvent.isProcess) ∧
    inputs es = [input] ∧ slept out = sleeps

theorem IteratesSleeping.iterates {m m' : LocalMonitor} {input : PollInput}
    {r : IterationRecord} {sleeps : List ℤ} (h : IteratesSleeping m input r sleeps m') :
    Iterates m r m' := by
  obtain ⟨es, out, hrun, hcount, hpos, hpos', hpolled, hsends, hprocessed, -⟩ := h
  exact ⟨es, out, hrun, hcount, hpos, hpos', hpolled, hsends, hprocessed⟩

/-- The interval that the loop will sleep for. -/
def interval? (self : LocalMonitor) : Option ℤ :=
  match self.position with
  | .sleeping => none
  | .polling interval => some interval
  | .processing interval _ _ => some interval
  | .sending interval _ _ _ _ => some interval

@[simp] theorem interval?_deliver (m : LocalMonitor) (interval : ℤ)
    (allStates : Dict String WANState) (remaining : List WANState) (alerts : List AlertEvent) :
    (m.deliver interval allStates remaining alerts).interval? = some interval := by
  cases alerts <;> rfl

theorem slept_append (out o : List MonitorOutput) : slept (out ++ o) = slept out ++ slept o :=
  List.filterMap_append

theorem slept_append_eq_nil {out o : List MonitorOutput} (h : slept out = [])
    (ho : slept o = []) : slept (out ++ o) = [] := by
  rw [slept_append, h, ho, List.append_nil]

/-- What an iteration that began in `m₁` has slept after `n` polls were started. -/
inductive SleepPhase (m₁ : LocalMonitor) : ℕ → LocalMonitor → List MonitorOutput → Prop
  | waiting {m : LocalMonitor} {out : List MonitorOutput} (hpos : m.position = .sleeping)
      (hinterval : m.pollInterval = m₁.pollInterval) (hslept : slept out = []) :
      SleepPhase m₁ 0 m out
  | awake {m : LocalMonitor} {out : List MonitorOutput}
      (hinterval : m.interval? = some m₁.pollInterval) (hslept : slept out = []) :
      SleepPhase m₁ 1 m out
  | asleep {m : LocalMonitor} {out : List MonitorOutput} (hpos : m.position = .sleeping)
      (hslept : slept out = [m₁.pollInterval] ∨ ∃ p ∈ sends out, p.2 = .raised) :
      SleepPhase m₁ 1 m out
  | beyond {n : ℕ} {m : LocalMonitor} {out : List MonitorOutput} (hn : 2 ≤ n) :
      SleepPhase m₁ n m out

variable {m₁ m m' : LocalMonitor} {e : MonitorEvent} {out o : List MonitorOutput}

theorem SleepPhase.step_waiting (hpos : m.position = .sleeping)
    (hinterval : m.pollInterval = m₁.pollInterval) (hslept : slept out = [])
    (htrans : Transition m e m' o) :
    SleepPhase m₁ (0 + if e.isStartPoll then 1 else 0) m' (out ++ o) := by
  rcases htrans.of_sleeping hpos with ⟨rfl, rfl, rfl⟩ | hidle
  · exact .awake (congrArg some hinterval) (slept_append_eq_nil hslept rfl)
  · have hkept : m'.pollInterval = m.pollInterval := by
      rw [pollInterval, hidle.engine, hidle.config]
      rfl
    rw [hidle.isStartPoll]
    exact .waiting (hidle.position.trans hpos) (hkept.trans hinterval)
      (slept_append_eq_nil hslept hidle.slept)

theorem SleepPhase.step_awake (hinterval : m.interval? = some m₁.pollInterval)
    (hslept : slept out = []) (htrans : Transition m e m' o) :
    SleepPhase m₁ (1 + if e.isStartPoll then 1 else 0) m' (out ++ o) := by
  cases htrans with
  | startPoll hpos => simp [interval?, hpos] at hinterval
  | polled input interval hpos =>
      rw [interval?, hpos] at hinterval
      exact .awake hinterval (slept_append_eq_nil hslept rfl)
  | process now hpos =>
      rw [interval?, hpos] at hinterval
      exact .awake ((interval?_deliver ..).trans hinterval) (slept_append_eq_nil hslept rfl)
  | finish hpos =>
      rw [interval?, hpos] at hinterval
      refine .asleep rfl (Or.inl ?_)
      rw [slept_append, hslept, ← Option.some_injective _ hinterval]
      rfl
  | sendReturned reply ok hpos hresult =>
      rw [interval?, hpos] at hinterval
      exact .awake ((interval?_deliver ..).trans hinterval) (slept_append_eq_nil hslept rfl)
  | @sendRaised reply _ _ _ alert _ hpos hresult =>
      refine .asleep rfl (Or.inr ⟨(alert, .raised), ?_, rfl⟩)
      simp [sends, MonitorOutput.sent?]
  | heartbeat now _ =>
      exact .awake hinterval (slept_append_eq_nil hslept (idle_heartbeat m now).slept)
  | syslog now event _ =>
      exact .awake hinterval (slept_append_eq_nil hslept (idle_syslog m now event).slept)

theorem SleepPhase.step_asleep (hpos : m.position = .sleeping)
    (hslept : slept out = [m₁.pollInterval] ∨ ∃ p ∈ sends out, p.2 = .raised)
    (htrans : Transition m e m' o) :
    SleepPhase m₁ (1 + if e.isStartPoll then 1 else 0) m' (out ++ o) := by
  rcases htrans.of_sleeping hpos with ⟨rfl, rfl, rfl⟩ | hidle
  · exact .beyond (by simp [MonitorEvent.isStartPoll])
  · rw [hidle.isStartPoll]
    refine .asleep (hidle.position.trans hpos) ?_
    rw [slept_append, sends_append, hidle.slept, hidle.sends, List.append_nil, List.append_nil]
    exact hslept

theorem sleepPhase_run {es : List MonitorEvent} (hpos : m₁.position = .sleeping)
    (hrun : Machine.run LocalMonitor.step m₁ es = some (m, out)) :
    SleepPhase m₁ (es.countP MonitorEvent.isStartPoll) m out := by
  refine Machine.run_induction LocalMonitor.step (P := fun es m out ↦
    SleepPhase m₁ (es.countP MonitorEvent.isStartPoll) m out) ?_ ?_ es m out hrun
  · exact .waiting hpos rfl rfl
  · intro es m out e m' o _ ih hstep
    have htrans := transition_of_step hstep
    rw [List.countP_append, List.countP_singleton]
    generalize es.countP MonitorEvent.isStartPoll = n at ih
    cases ih with
    | waiting hpos hinterval hslept => exact SleepPhase.step_waiting hpos hinterval hslept htrans
    | awake hinterval hslept => exact SleepPhase.step_awake hinterval hslept htrans
    | asleep hpos hslept => exact SleepPhase.step_asleep hpos hslept htrans
    | beyond hn => exact .beyond (by omega)

/-- An iteration without an exception sleeps once, for the interval chosen before it. -/
theorem IteratesSleeping.sleeps_eq {input : PollInput} {r : IterationRecord}
    {sleeps : List ℤ} (h : IteratesSleeping m input r sleeps m')
    (hsends : ∀ p ∈ r.sends, p.2 ≠ .raised) : sleeps = [m.pollInterval] := by
  obtain ⟨es, out, hrun, hcount, hpos, hpos', -, hsent, -, -, hslept⟩ := h
  have hphase := sleepPhase_run hpos hrun
  rw [hcount] at hphase
  cases hphase with
  | awake hinterval _ => simp [interval?, hpos'] at hinterval
  | beyond hn => omega
  | asleep _ hended =>
      rcases hended with hended | ⟨p, hp, hraised⟩
      · exact hslept.symm.trans hended
      · exact absurd hraised (hsends p (hsent ▸ hp))

/-! ## The poll of an iteration -/

theorem Transition.poller_cases (h : Transition m e m' o) :
    (e.input? = none ∧ m'.poller = m.poller ∧ polledStates o = []) ∨
      ∃ input, e.input? = some input ∧ polledStates o = [m.poller.states input] := by
  cases h with
  | polled input interval hpos => exact Or.inr ⟨input, rfl, rfl⟩
  | process now hpos => exact Or.inl ⟨rfl, deliver_poller .., rfl⟩
  | sendReturned reply ok hpos hresult => exact Or.inl ⟨rfl, deliver_poller .., rfl⟩
  | syslog now event hsuspended => exact Or.inl ⟨rfl, rfl, polledStates_dispatched _⟩
  | _ => exact Or.inl ⟨rfl, rfl, rfl⟩

/-- The first poll of a run reads the poller as the run found it. -/
theorem polledStates_run {es : List MonitorEvent}
    (hrun : Machine.run LocalMonitor.step m₁ es = some (m, out)) :
    (inputs es = [] → m.poller = m₁.poller ∧ polledStates out = []) ∧
      ∀ input, inputs es = [input] → polledStates out = [m₁.poller.states input] := by
  refine Machine.run_induction LocalMonitor.step (P := fun es m out ↦
    (inputs es = [] → m.poller = m₁.poller ∧ polledStates out = []) ∧
      ∀ input, inputs es = [input] → polledStates out = [m₁.poller.states input]) ?_ ?_
    es m out hrun
  · exact ⟨fun _ ↦ ⟨rfl, rfl⟩, fun input hinput ↦ by simp [inputs] at hinput⟩
  · intro es m out e m' o _ ih hstep
    have hinputs : inputs (es ++ [e]) = inputs es ++ e.input?.toList := by
      rw [inputs, List.filterMap_append]
      cases e <;> rfl
    rw [hinputs, polledStates_append]
    rcases (transition_of_step hstep).poller_cases with ⟨hnone, hpoller, ho⟩ | ⟨input, hsome, ho⟩
    · rw [hnone, Option.toList_none, List.append_nil, ho, List.append_nil, hpoller]
      exact ih
    · rw [hsome, Option.toList_some, ho]
      refine ⟨by simp, ?_⟩
      intro input' heq
      have hlength := congrArg List.length heq
      have hnil : inputs es = [] := by simpa using hlength
      rw [hnil, List.nil_append, List.singleton_inj] at heq
      obtain ⟨hpoller, hout⟩ := ih.1 hnil
      rw [hout, hpoller, heq, List.nil_append]

theorem IteratesSleeping.polled_eq {input : PollInput} {r : IterationRecord}
    {sleeps : List ℤ} (h : IteratesSleeping m input r sleeps m') :
    r.polled = m.poller.states input := by
  obtain ⟨es, out, hrun, -, -, -, hpolled, -, -, hinput, -⟩ := h
  exact List.singleton_injective (hpolled.symm.trans ((polledStates_run hrun).2 input hinput))

/-! ## The engine after an iteration -/

variable {config : LocalConfig} {telegram : TelegramNotifier} {rs : List IterationRecord}
  {r : IterationRecord}

/-- An iteration in which no send raises is one complete round. -/
theorem Iterates.completeRound (h : Iterates m₁ r m) (hsends : ∀ p ∈ r.sends, p.2 ≠ .raised) :
    ∃ rd : Round, rd.Covers m₁.poller.wanGateways ∧
      m.monitoring = (m₁.monitoring.round rd).1 ∧ r.polled = m₁.poller.states rd.input := by
  obtain ⟨rd, horder, hmonitoring, -, hpolled, -, hcomplete⟩ := h.round
  refine ⟨rd, ?_, hmonitoring, hpolled⟩
  rw [Round.Covers, horder]
  rcases hcomplete with heq | ⟨p, hp, hraised⟩
  · exact List.Perm.of_eq heq
  · exact absurd hraised (hsends p hp)

theorem Transition.config_eq (h : Transition m e m' o) : m'.config = m.config := by
  have hdeliver : ∀ (n : LocalMonitor) (interval : ℤ) (allStates : Dict String WANState)
      (remaining : List WANState) (alerts : List AlertEvent),
      (n.deliver interval allStates remaining alerts).config = n.config := by
    intro n interval allStates remaining alerts
    cases alerts <;> rfl
  cases h with
  | process now _ => rw [hdeliver]
  | sendReturned reply ok _ _ => exact hdeliver _ _ _ _ _
  | _ => rfl

theorem PollLoop.config_eq (h : PollLoop (init config telegram) rs m) : m.config = config := by
  induction h with
  | start => rfl
  | @iterate rs m₁ m₂ r hloop hiterates ih =>
      obtain ⟨es, out, hrun, -⟩ := hiterates
      have hframe := Machine.run_frame LocalMonitor.step LocalMonitor.config
        (fun _ _ _ _ hstep ↦ (transition_of_step hstep).config_eq) hrun
      exact hframe.trans ih

/-- The engine observes configured WANs only. -/
theorem PollLoop.observed_mem (h : PollLoop (init config telegram) rs m) :
    ∀ name ∈ m.alertEngine.wanStates.keys, name ∈ config.router.wanGateways.keys := by
  induction h with
  | start => exact fun name hname ↦ absurd hname List.not_mem_nil
  | @iterate rs m₁ m₂ r hloop hiterates ih =>
      obtain ⟨rd, -, hvisits, hmonitoring, -⟩ := hiterates.visits
      have hengine : m₂.alertEngine = (m₁.monitoring.round rd).1.engine :=
        congrArg Monitoring.engine hmonitoring
      intro name hname
      rw [hengine, m₁.monitoring.mem_keys_round hvisits] at hname
      rcases hname with hname | hname
      · exact ih name hname
      · exact hloop.levelsFollow.gateways ▸ hvisits.configured name hname

/-- The choice after a complete iteration, in terms of its poll and the engine before. -/
theorem alertInterval_iterate_iff (hloop : PollLoop (init config telegram) rs m₁)
    (h : Iterates m₁ r m) (hsends : ∀ p ∈ r.sends, p.2 ≠ .raised) :
    m.alertEngine.shouldUseAlertInterval = true ↔
      ∃ name ∈ config.router.wanGateways.keys, ¬reportsUp r.polled name ∨
        m₁.alertEngine.level name = .down ∨
        (m₁.alertEngine.alertState name).consecutiveStable < 4 := by
  obtain ⟨rd, hcovers, hmonitoring, hpolled⟩ := h.completeRound hsends
  have hengine : m.alertEngine = (m₁.monitoring.round rd).1.engine :=
    congrArg Monitoring.engine hmonitoring
  have hgateways := hloop.levelsFollow.gateways
  rw [hengine, AlertEngine.shouldUseAlertInterval_iff]
  apply exists_congr
  intro name
  have hkeys : name ∈ (m₁.monitoring.round rd).1.engine.wanStates.keys ↔
      name ∈ config.router.wanGateways.keys := by
    rw [m₁.monitoring.mem_keys_round hcovers.visits, hcovers.mem_iff, hgateways]
    exact or_iff_right_of_imp (hloop.observed_mem name)
  rw [hkeys]
  apply and_congr_right
  intro hname
  rw [m₁.monitoring.alerting_round_iff hcovers.visits
    (hcovers.mem_iff.mpr (hgateways.symm ▸ hname)), hpolled, reportsUp_states_iff]
  rfl

theorem HandsOver.not_reportsUp_of_down {router : RouterConfig} (h : HandsOver router rs r)
    {p : AlertEvent × SendResult} (hp : p ∈ r.sends) {name : String}
    (htitle : p.1.title = name ++ " DOWN") :
    name ∈ router.wanGateways.keys ∧ ¬reportsUp r.polled name := by
  have hmem : name ++ " DOWN" ∈ r.titles := List.mem_map.mpr ⟨p, hp, htitle⟩
  rw [h.titles] at hmem
  obtain ⟨n, hn, heq⟩ := List.mem_map.mp hmem
  obtain ⟨rfl, hdown⟩ := (AlertEngine.wanTitle_eq_down_iff n name _).mp heq
  refine ⟨h.processed.subset (List.mem_of_mem_filter hn), ?_⟩
  intro hup
  rw [reportsUp] at hup
  rw [IterationRecord.status, hup] at hdown
  cases hdown

/-- The sleep of an iteration follows the engine that the iteration leaves exactly if
the poll did not change the choice.  A DOWN alert leaves an engine in the alert
state, so it takes one that was there before. -/
theorem sleep_reflects_poll_iff (config : LocalConfig) (telegram : TelegramNotifier)
    {rs : List IterationRecord} {m₁ m₂ : LocalMonitor} {input : PollInput}
    {r : IterationRecord} {sleeps : List ℤ} (hloop : PollLoop (init config telegram) rs m₁)
    (hiterates : IteratesSleeping m₁ input r sleeps m₂)
    (hsends : ∀ p ∈ r.sends, p.2 ≠ .raised) :
    (sleeps = [if m₂.alertEngine.shouldUseAlertInterval then config.polling.alertInterval
        else config.polling.normalInterval] ↔
      config.polling.alertInterval = config.polling.normalInterval ∨
        (m₁.alertEngine.shouldUseAlertInterval = true ↔
          ∃ name ∈ config.router.wanGateways.keys,
            m₁.poller.activeWan (getNextHop input.nextHop) ≠ some name ∨
            m₁.alertEngine.level name = .down ∨
            (m₁.alertEngine.alertState name).consecutiveStable < 4)) ∧
    ((∃ p ∈ r.sends, ∃ name, p.1.title = name ++ " DOWN") →
      m₂.alertEngine.shouldUseAlertInterval = true ∧
      (sleeps = [config.polling.alertInterval] ↔
        config.polling.alertInterval = config.polling.normalInterval ∨
          m₁.alertEngine.shouldUseAlertInterval = true)) := by
  have hflag := alertInterval_iterate_iff hloop hiterates.iterates hsends
  have hsleeps := hiterates.sleeps_eq hsends
  rw [pollInterval, hloop.config_eq] at hsleeps
  constructor
  · simp only [hiterates.polled_eq, reportsUp_states_iff] at hflag
    rw [← hflag, hsleeps]
    cases m₁.alertEngine.shouldUseAlertInterval <;>
      cases m₂.alertEngine.shouldUseAlertInterval <;> simp [eq_comm]
  · rintro ⟨p, hp, name, htitle⟩
    have hover := (hloop.levelsFollow.iterate hiterates.iterates).2
    obtain ⟨hname, hdown⟩ := hover.not_reportsUp_of_down hp htitle
    refine ⟨hflag.mpr ⟨name, hname, Or.inl hdown⟩, ?_⟩
    rw [hsleeps]
    cases m₁.alertEngine.shouldUseAlertInterval <;> simp [eq_comm]

/-- The first iteration of a fresh monitor, whose poll is not answered. -/
def firstIteration : List MonitorEvent :=
  [.startPoll, .polled Round.lost.input, .process 0, .sendDone .delivered, .process 0,
    .sendDone .delivered, .finish]

theorem sleep_reflects_poll_first :
    ∃ m₁ r m₂ sleeps, m₁ = init { router := dualWan } {} ∧
      IteratesSleeping m₁ Round.lost.input r sleeps m₂ ∧
      sleeps = [60] ∧ m₂.alertEngine.shouldUseAlertInterval = true ∧
      (sleeps = [if m₂.alertEngine.shouldUseAlertInterval then 15 else 60] ↔
        (15 : ℤ) = 60 ∨ (m₁.alertEngine.shouldUseAlertInterval = true ↔
          ∃ name ∈ dualWan.wanGateways.keys,
            m₁.poller.activeWan (getNextHop Round.lost.input.nextHop) ≠ some name ∨
            m₁.alertEngine.level name = .down ∨
            (m₁.alertEngine.alertState name).consecutiveStable < 4)) := by
  obtain ⟨r, m₂, sleeps, hiterates, hsends, hslept, hflag⟩ : ∃ r m₂ sleeps,
      IteratesSleeping (init { router := dualWan } {}) Round.lost.input r sleeps m₂ ∧
        r.sends.map Prod.snd = [.returned true, .returned true] ∧
        sleeps = [60] ∧ m₂.alertEngine.shouldUseAlertInterval = true :=
    ⟨⟨_, _, _⟩, _, _, ⟨firstIteration, _, rfl, rfl, rfl, rfl, rfl, rfl, rfl, rfl, rfl⟩, rfl,
      rfl, rfl⟩
  refine ⟨_, r, m₂, sleeps, rfl, hiterates, hslept, hflag,
    (sleep_reflects_poll_iff { router := dualWan } {} .start hiterates ?_).1⟩
  intro p hp hraised
  have hmem : p.2 ∈ r.sends.map Prod.snd := List.mem_map_of_mem hp
  rw [hsends, hraised] at hmem
  simp at hmem

/-- Both WANs are alerted as DOWN, and the loop sleeps for the normal interval. -/
theorem down_alerts_sleep_normal :
    ∃ m out, Machine.run step (init { router := dualWan } {}) firstIteration = some (m, out) ∧
      (sends out).map (fun p ↦ (p.1.title, p.2)) =
        [("WAN1 DOWN", .returned true), ("WAN2 DOWN", .returned true)] ∧
      m.alertEngine.shouldUseAlertInterval = true ∧ m.config.polling.alertInterval = 15 ∧
      slept out = [60] :=
  ⟨_, _, rfl, rfl, rfl, rfl, rfl⟩

end LocalMonitor

end WanRouter
