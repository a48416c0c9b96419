import WanRouter.Local.Iterations

/-!
# The alerts reported by heartbeats

The tasks of the monitor share the list of recent events: the poll loop and the
syslog callback append to it, the end of an iteration trims it, and an iteration
can be abandoned at any of its awaits.  The list remains a suffix of all alerts
produced so far, never shorter than 100 alerts unless nothing was dropped.
-/

namespace WanRouter

open OrderedDict

namespace LocalMonitor

/-- A step of one of the tasks, whichever poller the monitor has. -/
inductive TaskEvent where
  | monitor (event : MonitorEvent)
  /-- The poller answers with these states. -/
  | answered (states : Dict String WANState)
  /-- The call that the poll loop awaits raises. -/
  | aborted

inductive Observation where
  | produced (alert : AlertEvent)
  | output (output : MonitorOutput)

/-- The alerts returned by `process_wan_state` or `process_syslog_event` in a step. -/
def producedBy (self : LocalMonitor) : TaskEvent → List AlertEvent
  | .monitor (.process now) =>
      match self.position with
      | .processing _ allStates (state :: _) =>
          (self.alertEngine.processWanState now state (some allStates)).2
      | _ => []
  | .monitor (.syslog now event) => self.alertEngine.processSyslogEvent now event
  | _ => []

def taskTransition (self : LocalMonitor) : TaskEvent → Option (LocalMonitor × List MonitorOutput)
  | .monitor event => self.step event
  | .answered states =>
      match self.position with
      | .polling interval =>
          some ({ self with position := .processing interval states states.values },
            [.polled states])
      | _ => none
  | .aborted =>
      match self.position with
      | .polling _ => some ({ self with position := .sleeping }, [.slept 10])
      | .sending _ _ _ _ _ => some ({ self with position := .sleeping }, [.slept 10])
      | _ => none

def taskStep (self : LocalMonitor) (e : TaskEvent) : Option (LocalMonitor × List Observation) :=
  (self.taskTransition e).map fun p ↦
    (p.1, (self.producedBy e).map .produced ++ p.2.map .output)

def Observation.alert? : Observation → Option AlertEvent
  | .produced alert => some alert
  | .output _ => none

/-- The alerts produced in a run, in order. -/
def producedAlerts (trace : List Observation) : List AlertEvent :=
  trace.filterMap Observation.alert?

theorem producedAlerts_append (trace trace' : List Observation) :
    producedAlerts (trace ++ trace') = producedAlerts trace ++ producedAlerts trace' :=
  List.filterMap_append

theorem producedAlerts_step (alerts : List AlertEvent) (out : List MonitorOutput) :
    producedAlerts (alerts.map Observation.produced ++ out.map .output) = alerts := by
  have hproduced : (alerts.map Observation.produced).filterMap Observation.alert? = alerts := by
    simp [List.filterMap_map, Function.comp_def, Observation.alert?]
  have houtput : (out.map Observation.output).filterMap Observation.alert? = [] := by
    simp [Observation.alert?]
  rw [producedAlerts, List.filterMap_append, hproduced, houtput, List.append_nil]

/-! ## The window of recent events -/

theorem lastItems_suffix {α : Type*} (n : ℕ) (l : List α) : lastItems n l <:+ l :=
  List.drop_suffix _ _

theorem length_lastItems {α : Type*} (n : ℕ) (l : List α) :
    (lastItems n l).length = min n l.length := by
  rw [lastItems, List.length_drop]
  omega

/-- The recent events are the end of the alerts produced so far. -/
structure HoldsLatest (m : LocalMonitor) (alerts : List AlertEvent) : Prop where
  suffix : m.recentEvents <:+ alerts
  enough : min 100 alerts.length ≤ m.recentEvents.length
  -- At most the alert that is being sent is still to be handed over, and it is in the list.
  queued : m.queued.length ≤ 1

variable {m m' : LocalMonitor} {alerts : List AlertEvent}

theorem HoldsLatest.append (h : HoldsLatest m alerts) (new : List AlertEvent)
    (hevents : m'.recentEvents = m.recentEvents ++ new) (hqueued : m'.queued.length ≤ 1) :
    HoldsLatest m' (alerts ++ new) where
  suffix := by
    obtain ⟨older, hsplit⟩ := h.suffix
    refine ⟨older, ?_⟩
    rw [hevents, ← List.append_assoc, hsplit]
  enough := by
    have henough := h.enough
    rw [hevents, List.length_append, List.length_append]
    omega
  queued := hqueued

theorem HoldsLatest.keep (h : HoldsLatest m alerts) (hevents : m'.recentEvents = m.recentEvents)
    (hqueued : m'.queued.length ≤ 1) : HoldsLatest m' (alerts ++ []) :=
  h.append [] (by rw [hevents, List.append_nil]) hqueued

theorem recentEvents_deliver (m : LocalMonitor) (interval : ℤ)
    (allStates : Dict String WANState) (remaining : List WANState) {new : List AlertEvent}
    (hnew : new.length ≤ 1) :
    (m.deliver interval allStates remaining new).recentEvents = m.recentEvents ++ new := by
  cases new with
  | nil => simp [deliver]
  | cons alert later =>
      obtain rfl : later = [] := List.length_eq_zero_iff.mp (by simpa using hnew)
      rfl

/-- A step is one of the monitor, or it only ends an await of the poll loop. -/
theorem taskTransition_cases {e : TaskEvent} {out : List MonitorOutput}
    (hstep : m.taskTransition e = some (m', out)) :
    (∃ event, e = .monitor event ∧ Transition m event m' out) ∨
      (m.producedBy e = [] ∧ m'.recentEvents = m.recentEvents ∧ m'.queued = [] ∧
        ∀ payload, .heartbeat payload ∉ out) := by
  cases e with
  | monitor event => exact .inl ⟨event, rfl, transition_of_step hstep⟩
  | answered states =>
      cases hpos : m.position with
      | polling interval =>
          simp only [taskTransition, hpos] at hstep
          cases hstep
          exact .inr ⟨rfl, rfl, rfl, by simp⟩
      | _ => simp [taskTransition, hpos] at hstep
  | aborted =>
      cases hpos : m.position with
      | polling interval =>
          simp only [taskTransition, hpos] at hstep
          cases hstep
          exact .inr ⟨rfl, rfl, rfl, by simp⟩
      | sending interval allStates remaining alert later =>
          simp only [taskTransition, hpos] at hstep
          cases hstep
          exact .inr ⟨rfl, rfl, rfl, by simp⟩
      | _ => simp [taskTransition, hpos] at hstep

/-- One step of any task keeps the list at the end of the alerts produced so far. -/
theorem HoldsLatest.step (h : HoldsLatest m alerts) {e : TaskEvent} {out : List MonitorOutput}
    (hstep : m.taskTransition e = some (m', out)) :
    HoldsLatest m' (alerts ++ m.producedBy e) := by
  rcases taskTransition_cases hstep with
    ⟨event, rfl, htransition⟩ | ⟨hproduced, hevents, hqueued, -⟩
  · cases htransition with
    | startPoll hpos => exact h.keep rfl (by simp [LocalMonitor.queued])
    | polled input interval hpos => exact h.keep rfl (by simp [LocalMonitor.queued])
    | process now hpos =>
        rename_i interval allStates state remaining
        have hproduced : m.producedBy (.monitor (.process now)) =
            (m.alertEngine.processWanState now state (some allStates)).2 := by
          rw [producedBy, hpos]
        have hlength :
            (m.alertEngine.processWanState now state (some allStates)).2.length ≤ 1 :=
          AlertEngine.length_processWanState_alerts_le _ _ _
        rw [hproduced]
        apply h.append
        · exact recentEvents_deliver _ _ _ _ hlength
        · rw [queued_deliver]
          exact hlength
    | finish hpos =>
        have henough := h.enough
        rw [show m.producedBy (.monitor .finish) = [] from rfl, List.append_nil]
        refine ⟨(lastItems_suffix 100 _).trans h.suffix, ?_, by simp [LocalMonitor.queued]⟩
        rw [length_lastItems]
        omega
    | sendReturned reply ok hpos hresult =>
        rename_i interval allStates remaining alert later
        have hqueued := h.queued
        rw [LocalMonitor.queued, hpos, List.length_cons] at hqueued
        obtain rfl : later = [] := List.length_eq_zero_iff.mp (by omega)
        exact h.keep rfl (by simp [LocalMonitor.deliver, LocalMonitor.queued])
    | sendRaised reply hpos _ => exact h.keep rfl (by simp [LocalMonitor.queued])
    | heartbeat now _ => exact h.keep rfl h.queued
    | syslog now event _ => exact h.append _ rfl h.queued
  · rw [hproduced]
    exact h.keep hevents (by simp [hqueued])

/-! ## The payloads -/

theorem heartbeat_mem_taskTransition {e : TaskEvent} {out : List MonitorOutput}
    {payload : HeartbeatPayload} (hstep : m.taskTransition e = some (m', out))
    (hmem : .heartbeat payload ∈ out) :
    m.producedBy e = [] ∧ out = [.heartbeat payload] ∧
      payload.recentEvents = lastItems 10 m.recentEvents := by
  rcases taskTransition_cases hstep with ⟨event, rfl, htransition⟩ | ⟨-, -, -, hquiet⟩
  · cases htransition with
    | heartbeat now _ =>
        obtain rfl : payload = m.heartbeatPayload now := by simpa using hmem
        exact ⟨rfl, rfl, rfl⟩
    | _ => simp at hmem
  · exact (hquiet payload hmem).elim

/-- The last ten of the recent events are the last ten of all alerts. -/
theorem HoldsLatest.lastTen (h : HoldsLatest m alerts) :
    lastItems 10 m.recentEvents <:+ alerts ∧
      (lastItems 10 m.recentEvents).length = min 10 alerts.length := by
  refine ⟨(lastItems_suffix 10 _).trans h.suffix, ?_⟩
  have henough := h.enough
  have hle := h.suffix.length_le
  rw [length_lastItems]
  omega

def ReportsLatest (trace : List Observation) : Prop :=
  ∀ pre payload post, trace = pre ++ .output (.heartbeat payload) :: post →
    payload.recentEvents <:+ producedAlerts pre ∧
      payload.recentEvents.length = min 10 (producedAlerts pre).length

theorem ReportsLatest.append {trace o : List Observation} (h : ReportsLatest trace)
    (ho : ∀ payload, .output (.heartbeat payload) ∉ o) : ReportsLatest (trace ++ o) := by
  induction o using List.reverseRecOn with
  | nil => rwa [List.append_nil]
  | append_singleton o x ih =>
      have hbefore : ReportsLatest (trace ++ o) :=
        ih fun payload hmem ↦ ho payload (List.mem_append_left _ hmem)
      intro pre payload post hsplit
      rw [← List.append_assoc] at hsplit
      rcases Machine.concat_eq_append_cons hsplit with ⟨-, rfl, heq⟩ | ⟨post', -, htrace⟩
      · exact (ho payload (by simp [heq])).elim
      · exact hbefore pre payload post' htrace

theorem ReportsLatest.heartbeat {trace : List Observation} {payload : HeartbeatPayload}
    (h : ReportsLatest trace)
    (hpayload : payload.recentEvents <:+ producedAlerts trace ∧
      payload.recentEvents.length = min 10 (producedAlerts trace).length) :
    ReportsLatest (trace ++ [.output (.heartbeat payload)]) := by
  intro pre payload' post hsplit
  rcases Machine.concat_eq_append_cons hsplit with ⟨-, rfl, heq⟩ | ⟨post', -, htrace⟩
  · cases heq
    exact hpayload
  · exact h pre payload' post' htrace

theorem holdsLatest_run {es : List TaskEvent} {trace : List Observation}
    (hinit : HoldsLatest m []) (hrun : Machine.run taskStep m es = some (m', trace)) :
    HoldsLatest m' (producedAlerts trace) ∧ ReportsLatest trace := by
  refine Machine.run_induction taskStep
    (P := fun _ m' trace ↦ HoldsLatest m' (producedAlerts trace) ∧ ReportsLatest trace)
    ⟨hinit, by simp [ReportsLatest]⟩ ?_ es m' trace hrun
  rintro es t trace e t' o - ⟨hholds, hreports⟩ hstep
  obtain ⟨⟨t'', out⟩, htransition, heq⟩ := Option.map_eq_some_iff.mp hstep
  cases heq
  refine ⟨?_, ?_⟩
  · rw [producedAlerts_append, producedAlerts_step]
    exact hholds.step htransition
  · by_cases hmem : ∃ payload, MonitorOutput.heartbeat payload ∈ out
    · obtain ⟨payload, hmem⟩ := hmem
      obtain ⟨hproduced, rfl, hevents⟩ := heartbeat_mem_taskTransition htransition hmem
      rw [hproduced]
      apply hreports.heartbeat
      rw [hevents]
      exact hholds.lastTen
    · apply hreports.append
      rintro payload hin
      exact hmem ⟨payload, by simpa using hin⟩

/-- Every heartbeat reports the last ten alerts produced before it, or all of them when
there are fewer. -/
theorem heartbeats_report_latest_alerts (config : LocalConfig) (telegram : TelegramNotifier)
    {es : List TaskEvent} {trace : List Observation}
    (hrun : Machine.run taskStep (init config telegram) es = some (m', trace))
    {pre : List Observation} {payload : HeartbeatPayload} {post : List Observation}
    (hsplit : trace = pre ++ .output (.heartbeat payload) :: post) :
    payload.recentEvents <:+ producedAlerts pre ∧
      payload.recentEvents.length = min 10 (producedAlerts pre).length := by
  have hinit : HoldsLatest (init config telegram) [] :=
    ⟨List.suffix_rfl, by simp, by simp [LocalMonitor.queued, init]⟩
  exact (holdsLatest_run hinit hrun).2 pre payload post hsplit

/-- A failover reported by syslog while the first poll is aborted, then a heartbeat. -/
def abortedTrace : List TaskEvent :=
  [.monitor .startPoll,
    .monitor (.syslog 0
      { timestamp := 0, facility := "", severity := "", hostname := "", message := ""
        category := "wan"
        metadata := ⟨[("wan_event_type", "failover_activated"), ("wan_interface", "WAN2")],
          by decide⟩ }),
    .aborted, .monitor (.heartbeat 0)]

theorem abortedTrace_reports_failover :
    ∃ m pre payload post,
      Machine.run taskStep (init { router := dualWan } {}) abortedTrace =
        some (m, pre ++ .output (.heartbeat payload) :: post) ∧
      payload.recentEvents.map AlertEvent.title = ["FAILOVER: WAN2 activated"] ∧
      payload.recentEvents <:+ producedAlerts pre ∧
      payload.recentEvents.length = min 10 (producedAlerts pre).length := by
  obtain ⟨m, pre, payload, post, hrun, htitles⟩ : ∃ m pre payload post,
      Machine.run taskStep (init { router := dualWan } {}) abortedTrace =
          some (m, pre ++ .output (.heartbeat payload) :: post) ∧
        payload.recentEvents.map AlertEvent.title = ["FAILOVER: WAN2 activated"] :=
    ⟨_, [_, _, _], _, [], rfl, rfl⟩
  exact ⟨m, pre, payload, post, hrun, htitles, heartbeats_report_latest_alerts _ _ hrun rfl⟩

end LocalMonitor

end WanRouter
