import WanRouter.Local.Failover
import WanRouter.Local.Heartbeats

/-!
# Iterations of the poll loop

An iteration is a run of the monitor from one sleep to the next, with heartbeats
and syslog messages anywhere in between.  It does to the poller and the engine
what one round does, and it hands over the alerts of that round, whatever the
sends return.  A send that raises cuts the round short.
-/

namespace WanRouter

open OrderedDict EdgeDetector SNMPPoller

def MonitorOutput.sent? : MonitorOutput → Option (AlertEvent × SendResult)
  | .sent alert result => some (alert, result)
  | _ => none

def MonitorOutput.slept? : MonitorOutput → Option ℤ
  | .slept seconds => some seconds
  | _ => none

def MonitorEvent.isStartPoll : MonitorEvent → Bool
  | .startPoll => true
  | _ => false

def MonitorEvent.isProcess : MonitorEvent → Bool
  | .process _ => true
  | _ => false

structure IterationRecord where
  polled : Dict String WANState
  /-- The WANs whose states were processed, in this order. -/
  processed : List String
  sends : List (AlertEvent × SendResult)

namespace LocalMonitor

def sends (out : List MonitorOutput) : List (AlertEvent × SendResult) :=
  out.filterMap MonitorOutput.sent?

def slept (out : List MonitorOutput) : List ℤ := out.filterMap MonitorOutput.slept?

def Iterates (m : LocalMonitor) (r : IterationRecord) (m' : LocalMonitor) : Prop :=
  ∃ es out, Machine.run step m es = some (m', out) ∧ es.countP MonitorEvent.isStartPoll = 1 ∧
    m.position = .sleeping ∧ m'.position = .sleeping ∧
    polledStates out = [r.polled] ∧ sends out = r.sends ∧
    r.processed = r.polled.keys.take (es.countP MonitorEvent.isProcess)

/-- The alerts that the loop has still to hand over for the state it processed last. -/
def queued (self : LocalMonitor) : List AlertEvent :=
  match self.position with
  | .sending _ _ _ alert later => alert :: later
  | _ => []

def currentPoll (self : LocalMonitor) : Option (Dict String WANState) :=
  match self.position with
  | .processing _ allStates _ => some allStates
  | .sending _ allStates _ _ _ => some allStates
  | _ => none

@[simp] theorem queued_deliver (m : LocalMonitor) (interval : ℤ)
    (allStates : Dict String WANState) (remaining : List WANState) (alerts : List AlertEvent) :
    (m.deliver interval allStates remaining alerts).queued = alerts := by
  cases alerts <;> rfl

@[simp] theorem currentPoll_deliver (m : LocalMonitor) (interval : ℤ)
    (allStates : Dict String WANState) (remaining : List WANState) (alerts : List AlertEvent) :
    (m.deliver interval allStates remaining alerts).currentPoll = some allStates := by
  cases alerts <;> rfl

theorem deliver_position_ne_polling (m : LocalMonitor) (interval : ℤ)
    (allStates : Dict String WANState) (remaining : List WANState) (alerts : List AlertEvent)
    (i : ℤ) : (m.deliver interval allStates remaining alerts).position ≠ .polling i := by
  cases alerts <;> simp [deliver]

theorem sends_append (out o : List MonitorOutput) :
    sends (out ++ o) = sends out ++ sends o := List.filterMap_append

theorem sends_dispatched (alerts : List AlertEvent) : sends (alerts.map .dispatched) = [] := by
  simp [sends, MonitorOutput.sent?]

theorem slept_dispatched (alerts : List AlertEvent) : slept (alerts.map .dispatched) = [] := by
  simp [slept, MonitorOutput.slept?]

/-- A step of another task, which the loop does not notice. -/
structure Idle (m : LocalMonitor) (e : MonitorEvent) (m' : LocalMonitor)
    (o : List MonitorOutput) : Prop where
  isStartPoll : e.isStartPoll = false
  isProcess : e.isProcess = false
  config : m'.config = m.config
  poller : m'.poller = m.poller
  engine : m'.alertEngine = m.alertEngine
  position : m'.position = m.position
  polled : polledStates o = []
  sends : sends o = []
  slept : slept o = []

theorem idle_heartbeat (m : LocalMonitor) (now : ℤ) :
    Idle m (.heartbeat now) m [.heartbeat (m.heartbeatPayload now)] :=
  ⟨rfl, rfl, rfl, rfl, rfl, rfl, rfl, rfl, rfl⟩

theorem idle_syslog (m : LocalMonitor) (now : ℤ) (event : SyslogEvent) :
    Idle m (.syslog now event)
      { m with recentEvents := m.recentEvents ++ m.alertEngine.processSyslogEvent now event }
      ((m.alertEngine.processSyslogEvent now event).map .dispatched) :=
  ⟨rfl, rfl, rfl, rfl, rfl, rfl, polledStates_dispatched _, sends_dispatched _,
    slept_dispatched _⟩

/-- The iteration that began in `m₁` has not polled yet. -/
structure Untouched (m₁ m : LocalMonitor) (out : List MonitorOutput) : Prop where
  poller : m.poller = m₁.poller
  engine : m.alertEngine = m₁.alertEngine
  polled : polledStates out = []
  sends : sends out = []

/-- Every send so far has returned, except perhaps the last one, that of the last of
the processed `states`: after it the loop sleeps. -/
structure LastRaises (states : List WANState) (m : LocalMonitor) (out : List MonitorOutput) :
    Prop where
  queued : ∀ alert ∈ m.queued, ∃ state ∈ states.getLast?,
    alert.title = AlertEngine.wanTitle state.interface state.status
  returned : m.position ≠ .sleeping → ∀ p ∈ sends out, p.2 ≠ .raised
  raised : ∀ before p after, sends out = before ++ p :: after → p.2 = .raised →
    after = [] ∧ ∃ state ∈ states.getLast?,
      p.1.title = AlertEngine.wanTitle state.interface state.status

/-- The iteration that began in `m₁` has polled `input` and processed `k` of its
states, at the readings of `clock`.  The others are left, unless a send raised. -/
structure InPoll (m₁ : LocalMonitor) (input : PollInput) (clock : String → ℤ) (k : ℕ)
    (m : LocalMonitor) (out : List MonitorOutput) : Prop where
  poller : m.poller = (m₁.poller.poll input).1
  current : ∀ allStates ∈ m.currentPoll, allStates = m₁.poller.states input
  notPolling : ∀ interval, m.position ≠ .polling interval
  polled : polledStates out = [m₁.poller.states input]
  engine : m.alertEngine = (m₁.alertEngine.processStates (m₁.poller.states input) clock
    ((m₁.poller.states input).values.take k)).1
  alerts : (sends out).map Prod.fst ++ m.queued =
    (m₁.alertEngine.processStates (m₁.poller.states input) clock
      ((m₁.poller.states input).values.take k)).2
  queued_le : m.queued.length ≤ 1
  remaining : m.unprocessed = (m₁.poller.states input).values.drop k ∨
    m.position = .sleeping ∧ ∃ p ∈ sends out, p.2 = .raised
  lastRaises : LastRaises ((m₁.poller.states input).values.take k) m out

variable {m₁ m m' : LocalMonitor} {e : MonitorEvent} {out o : List MonitorOutput}
  {input : PollInput} {clock : String → ℤ} {k : ℕ} {states : List WANState}

/-- While the loop sleeps only the start of an iteration is a step of its own. -/
theorem Transition.of_sleeping (h : Transition m e m' o) (hpos : m.position = .sleeping) :
    (e = .startPoll ∧ m' = { m with position := .polling m.pollInterval } ∧ o = []) ∨
      Idle m e m' o := by
  cases h with
  | startPoll _ => exact Or.inl ⟨rfl, rfl, rfl⟩
  | heartbeat now _ => exact Or.inr (idle_heartbeat m now)
  | syslog now event _ => exact Or.inr (idle_syslog m now event)
  | polled input interval hother => simp [hpos] at hother
  | process now hother => simp [hpos] at hother
  | finish hother => simp [hpos] at hother
  | sendReturned reply ok hother _ => simp [hpos] at hother
  | sendRaised reply hother _ => simp [hpos] at hother

theorem Untouched.frame (h : Untouched m₁ m out) (hpoller : m'.poller = m.poller)
    (hengine : m'.alertEngine = m.alertEngine) (hpolled : polledStates o = [])
    (hsends : LocalMonitor.sends o = []) : Untouched m₁ m' (out ++ o) where
  poller := hpoller.trans h.poller
  engine := hengine.trans h.engine
  polled := by rw [polledStates_append, h.polled, hpolled, List.nil_append]
  sends := by rw [sends_append, h.sends, hsends, List.nil_append]

theorem LastRaises.of_returned
    (hqueued : ∀ alert ∈ m.queued, ∃ state ∈ states.getLast?,
      alert.title = AlertEngine.wanTitle state.interface state.status)
    (hreturned : ∀ p ∈ sends out, p.2 ≠ .raised) : LastRaises states m out where
  queued := hqueued
  returned := fun _ ↦ hreturned
  raised := by
    intro before p after hsplit hraised
    exact absurd hraised (hreturned p (by simp [hsplit]))

theorem LastRaises.idle (h : LastRaises states m out) (hidle : Idle m e m' o) :
    LastRaises states m' (out ++ o) := by
  have hqueued : m'.queued = m.queued := by rw [LocalMonitor.queued, hidle.position]; rfl
  have hsends : sends (out ++ o) = sends out := by
    rw [sends_append, hidle.sends, List.append_nil]
  constructor
  · rw [hqueued]
    exact h.queued
  · rw [hidle.position, hsends]
    exact h.returned
  · rw [hsends]
    exact h.raised

/-- A send that returns leaves the loop awake. -/
theorem LastRaises.sendReturned (h : LastRaises states m out) (hpos : m.position ≠ .sleeping)
    (hqueued : ∀ alert ∈ m'.queued, alert ∈ m.queued) (hreturned : ∀ p ∈ sends o, p.2 ≠ .raised) :
    LastRaises states m' (out ++ o) := by
  apply LastRaises.of_returned
  · exact fun alert halert ↦ h.queued alert (hqueued alert halert)
  · intro p hp
    rw [sends_append, List.mem_append] at hp
    exact hp.elim (h.returned hpos p) (hreturned p)

theorem LastRaises.raise (h : LastRaises states m out) (hpos : m.position ≠ .sleeping)
    {alert : AlertEvent} (halert : alert ∈ m.queued) :
    LastRaises states { m with position := .sleeping }
      (out ++ [.sent alert .raised, .slept 10]) where
  queued := by rintro _ ⟨⟩
  returned := fun hawake ↦ absurd rfl hawake
  raised := by
    intro before p after hsplit hraised
    have hlast : sends out ++ [(alert, .raised)] = before ++ p :: after := by
      rw [← hsplit, sends_append]
      rfl
    rcases Machine.concat_eq_append_cons hlast with ⟨rfl, rfl, rfl⟩ | ⟨after', -, hbefore⟩
    · exact ⟨rfl, h.queued alert halert⟩
    · exact absurd hraised (h.returned hpos p (by simp [hbefore]))

theorem InPoll.unprocessed_eq (h : InPoll m₁ input clock k m out)
    (hpos : m.position ≠ .sleeping) :
    m.unprocessed = (m₁.poller.states input).values.drop k :=
  h.remaining.resolve_right fun hraised ↦ hpos hraised.1

/-- A step between two calls of the engine. -/
theorem InPoll.frame (h : InPoll m₁ input clock k m out) (hpoller : m'.poller = m.poller)
    (hengine : m'.alertEngine = m.alertEngine)
    (hcurrent : ∀ allStates ∈ m'.currentPoll, allStates ∈ m.currentPoll)
    (hposition : ∀ interval, m'.position ≠ .polling interval)
    (hpolled : polledStates o = [])
    (hsends : (sends o).map Prod.fst ++ m'.queued = m.queued)
    (hremaining : m'.unprocessed = (m₁.poller.states input).values.drop k ∨
      m'.position = .sleeping ∧ ∃ p ∈ sends (out ++ o), p.2 = .raised)
    (hraises : LastRaises ((m₁.poller.states input).values.take k) m' (out ++ o)) :
    InPoll m₁ input clock k m' (out ++ o) where
  poller := hpoller.trans h.poller
  current := fun allStates hall ↦ h.current allStates (hcurrent allStates hall)
  notPolling := hposition
  polled := by rw [polledStates_append, h.polled, hpolled, List.append_nil]
  engine := hengine.trans h.engine
  alerts := by rw [sends_append, List.map_append, List.append_assoc, hsends, h.alerts]
  queued_le := by
    have hlength := congrArg List.length hsends
    rw [List.length_append] at hlength
    exact (Nat.le_of_add_left_le hlength.le).trans h.queued_le
  remaining := hremaining
  lastRaises := hraises

theorem Untouched.idle (h : Untouched m₁ m out) (hidle : Idle m e m' o) :
    Untouched m₁ m' (out ++ o) :=
  h.frame hidle.poller hidle.engine hidle.polled hidle.sends

theorem InPoll.idle (h : InPoll m₁ input clock k m out) (hidle : Idle m e m' o) :
    InPoll m₁ input clock k m' (out ++ o) := by
  have hcurrent : m'.currentPoll = m.currentPoll := by rw [currentPoll, hidle.position]; rfl
  have hqueued : m'.queued = m.queued := by rw [queued, hidle.position]; rfl
  have hunprocessed : m'.unprocessed = m.unprocessed := by
    rw [unprocessed, hidle.position]
    rfl
  refine h.frame hidle.poller hidle.engine (by simp [hcurrent])
    (by rw [hidle.position]; exact h.notPolling) hidle.polled (by simp [hidle.sends, hqueued]) ?_
    (h.lastRaises.idle hidle)
  rw [hunprocessed, hidle.position, sends_append, hidle.sends, List.append_nil]
  exact h.remaining

theorem InPoll.begin (h : Untouched m₁ m out) (input : PollInput) (clock : String → ℤ)
    (interval : ℤ) :
    InPoll m₁ input clock 0
      { m with
        poller := (m.poller.poll input).1
        position := .processing interval (m.poller.states input)
          (m.poller.states input).values }
      (out ++ [.polled (m.poller.states input)]) where
  poller := by rw [h.poller]
  current := by
    rintro allStates ⟨⟩
    rw [h.poller]
  notPolling := by simp
  polled := by
    rw [polledStates_append, h.polled, h.poller]
    rfl
  engine := h.engine
  alerts := by
    rw [sends_append, h.sends]
    rfl
  queued_le := by simp [queued]
  remaining := by
    rw [← h.poller]
    exact Or.inl rfl
  lastRaises := by
    apply LastRaises.of_returned
    · rintro _ ⟨⟩
    · rw [sends_append, h.sends]
      rintro _ ⟨⟩

/-- Processing one more state, at the reading `now`. -/
theorem InPoll.process (h : InPoll m₁ input clock k m out) (now : ℤ) {interval : ℤ}
    {allStates : Dict String WANState} {state : WANState} {remaining : List WANState}
    (hpos : m.position = .processing interval allStates (state :: remaining)) :
    InPoll m₁ input (Function.update clock state.interface now) (k + 1)
      (deliver
        { m with alertEngine := (m.alertEngine.processWanState now state (some allStates)).1 }
        interval allStates remaining
        (m.alertEngine.processWanState now state (some allStates)).2) (out ++ []) := by
  have hqueued : m.queued = [] := by rw [queued, hpos]
  have hall : allStates = m₁.poller.states input :=
    h.current allStates (by rw [currentPoll, hpos]; rfl)
  have hdrop : (m₁.poller.states input).values.drop k = state :: remaining := by
    rw [← h.unprocessed_eq (by simp [hpos]), unprocessed, hpos]
  have htake : (m₁.poller.states input).values.take (k + 1) =
      (m₁.poller.states input).values.take k ++ [state] := by
    rw [List.take_add_one, ← List.head?_drop, hdrop]
    rfl
  have hstatus : state.status ≠ .unknown := by
    have hmem : state ∈ (m₁.poller.states input).values :=
      List.mem_of_mem_drop (hdrop ▸ List.mem_cons_self)
    rw [values_states] at hmem
    obtain ⟨name, -, rfl⟩ := List.mem_map.mp hmem
    exact m₁.poller.wanState_status_ne_unknown input name
  have halerts := h.alerts
  rw [hqueued, List.append_nil] at halerts
  subst hall
  -- The new reading does not change what the states before it were processed with.
  have hfresh : state.interface ∉
      ((m₁.poller.states input).values.take k).map WANState.interface := by
    have hnodup := m₁.poller.nodup_values_interface input
    rw [← List.take_append_drop k (m₁.poller.states input).values, hdrop, List.map_append,
      List.map_cons, List.nodup_append'] at hnodup
    exact fun hmem ↦ hnodup.2.2 hmem (by simp)
  have hclock : ∀ e : AlertEngine,
      e.processStates (m₁.poller.states input) (Function.update clock state.interface now)
          ((m₁.poller.states input).values.take k) =
        e.processStates (m₁.poller.states input) clock
          ((m₁.poller.states input).values.take k) := by
    intro e
    apply AlertEngine.processStates_congr
    intro s hs
    exact Function.update_of_ne (fun heq ↦ hfresh (List.mem_map.mpr ⟨s, hs, heq⟩)) _ _
  rw [List.append_nil]
  refine ⟨by rw [deliver_poller]; exact h.poller, ?_, deliver_position_ne_polling _ _ _ _ _,
    h.polled, ?_, ?_, ?_, ?_, ?_⟩
  · rw [currentPoll_deliver]
    rintro _ ⟨⟩
    rfl
  · simp only [deliver_alertEngine, htake, AlertEngine.processStates_concat, hclock, ← h.engine,
      Function.update_self]
  · simp only [queued_deliver, htake, AlertEngine.processStates_concat, hclock, ← h.engine,
      ← halerts, Function.update_self]
  · rw [queued_deliver]
    exact AlertEngine.length_processWanState_alerts_le _ _ _
  · rw [unprocessed_deliver, ← List.tail_drop, hdrop]
    exact Or.inl rfl
  · apply LastRaises.of_returned
    · rw [queued_deliver, htake, List.getLast?_concat]
      intro alert halert
      exact ⟨state, rfl, AlertEngine.title_of_mem_call hstatus halert⟩
    · exact h.lastRaises.returned (by simp [hpos])

/-- An exception ends the iteration with the states that are left. -/
theorem InPoll.raise (h : InPoll m₁ input clock k m out) {interval : ℤ}
    {allStates : Dict String WANState} {remaining : List WANState} {alert : AlertEvent}
    {later : List AlertEvent}
    (hpos : m.position = .sending interval allStates remaining alert later) :
    InPoll m₁ input clock k { m with position := .sleeping }
      (out ++ [.sent alert .raised, .slept 10]) := by
  have hlater : later = [] := by
    have hle := h.queued_le
    rw [queued, hpos] at hle
    simpa using hle
  refine h.frame rfl rfl (by rintro _ ⟨⟩) (by simp) rfl ?_ (Or.inr ⟨rfl, (alert, .raised), ?_⟩)
    (h.lastRaises.raise (by simp [hpos]) (by simp [queued, hpos]))
  · rw [queued, queued, hpos, hlater]
    rfl
  · simp [sends, MonitorOutput.sent?]

/-- Where an iteration stands after `n` polls were started and `k` states processed. -/
inductive Phase (m₁ : LocalMonitor) : ℕ → ℕ → LocalMonitor → List MonitorOutput → Prop
  | waiting {m : LocalMonitor} {out : List MonitorOutput} (hpos : m.position = .sleeping)
      (h : Untouched m₁ m out) : Phase m₁ 0 0 m out
  | polling {m : LocalMonitor} {out : List MonitorOutput} (interval : ℤ)
      (hpos : m.position = .polling interval) (h : Untouched m₁ m out) : Phase m₁ 1 0 m out
  | inPoll {k : ℕ} {m : LocalMonitor} {out : List MonitorOutput} (input : PollInput)
      (clock : String → ℤ) (h : InPoll m₁ input clock k m out) : Phase m₁ 1 k m out
  | beyond {n k : ℕ} {m : LocalMonitor} {out : List MonitorOutput} (hn : 2 ≤ n) :
      Phase m₁ n k m out

theorem Untouched.step_sleeping (h : Untouched m₁ m out) (hpos : m.position = .sleeping)
    (htrans : Transition m e m' o) :
    Phase m₁ (0 + if e.isStartPoll then 1 else 0) (0 + if e.isProcess then 1 else 0) m'
      (out ++ o) := by
  rcases htrans.of_sleeping hpos with ⟨rfl, rfl, rfl⟩ | hidle
  · exact .polling m.pollInterval rfl (h.frame rfl rfl rfl rfl)
  · rw [hidle.isStartPoll, hidle.isProcess]
    exact .waiting (hidle.position.trans hpos) (h.idle hidle)

theorem Untouched.step_polling (h : Untouched m₁ m out) {interval : ℤ}
    (hpos : m.position = .polling interval) (htrans : Transition m e m' o) :
    Phase m₁ (1 + if e.isStartPoll then 1 else 0) (0 + if e.isProcess then 1 else 0) m'
      (out ++ o) := by
  cases htrans with
  | polled input interval _ => exact .inPoll input (fun _ ↦ 0) (InPoll.begin h input _ interval)
  | heartbeat now _ => exact .polling interval hpos (h.idle (idle_heartbeat m now))
  | syslog now event _ => exact .polling interval hpos (h.idle (idle_syslog m now event))
  | startPoll hother => simp [hpos] at hother
  | process now hother => simp [hpos] at hother
  | finish hother => simp [hpos] at hother
  | sendReturned reply ok hother _ => simp [hpos] at hother
  | sendRaised reply hother _ => simp [hpos] at hother

theorem InPoll.step (h : InPoll m₁ input clock k m out) (htrans : Transition m e m' o) :
    Phase m₁ (1 + if e.isStartPoll then 1 else 0) (k + if e.isProcess then 1 else 0) m'
      (out ++ o) := by
  cases htrans with
  | startPoll _ => exact .beyond (by simp [MonitorEvent.isStartPoll])
  | polled input interval hpos => exact absurd hpos (h.notPolling interval)
  | process now hpos => exact .inPoll input _ (h.process now hpos)
  | finish hpos =>
      refine .inPoll input clock (h.frame rfl rfl ?_ (by simp) rfl ?_ (Or.inl ?_)
        (h.lastRaises.sendReturned (by simp [hpos]) ?_ ?_))
      · rintro _ ⟨⟩
      · simp [queued, sends, MonitorOutput.sent?, hpos]
      · rw [← h.unprocessed_eq (by simp [hpos]), unprocessed, unprocessed, hpos]
      · rintro _ ⟨⟩
      · rintro _ ⟨⟩
  | sendReturned reply ok hpos hresult =>
      refine .inPoll input clock (h.frame (deliver_poller ..) (deliver_alertEngine ..) ?_
        (deliver_position_ne_polling _ _ _ _ _) rfl ?_ (Or.inl ?_)
        (h.lastRaises.sendReturned (by simp [hpos]) ?_ ?_))
      · rw [currentPoll_deliver, currentPoll, hpos]
        exact fun _ hall ↦ hall
      · rw [queued_deliver, queued, hpos]
        rfl
      · rw [← h.unprocessed_eq (by simp [hpos]), unprocessed_deliver, unprocessed, hpos]
      · rw [queued_deliver, queued, hpos]
        exact fun _ hlater ↦ List.mem_cons_of_mem _ hlater
      · simp [sends, MonitorOutput.sent?]
  | sendRaised reply hpos hresult => exact .inPoll input clock (h.raise hpos)
  | heartbeat now _ => exact .inPoll input clock (h.idle (idle_heartbeat m now))
  | syslog now event _ => exact .inPoll input clock (h.idle (idle_syslog m now event))

theorem Phase.step {n : ℕ} (h : Phase m₁ n k m out) (htrans : Transition m e m' o) :
    Phase m₁ (n + if e.isStartPoll then 1 else 0) (k + if e.isProcess then 1 else 0) m'
      (out ++ o) := by
  cases h with
  | waiting hpos h => exact h.step_sleeping hpos htrans
  | polling interval hpos h => exact h.step_polling hpos htrans
  | inPoll input clock h => exact h.step htrans
  | beyond hn => exact .beyond (by omega)

theorem phase_run {es : List MonitorEvent} (hpos : m₁.position = .sleeping)
    (hrun : Machine.run LocalMonitor.step m₁ es = some (m, out)) :
    Phase m₁ (es.countP MonitorEvent.isStartPoll) (es.countP MonitorEvent.isProcess) m out := by
  refine Machine.run_induction LocalMonitor.step (P := fun es m out ↦
    Phase m₁ (es.countP MonitorEvent.isStartPoll) (es.countP MonitorEvent.isProcess) m out)
    ?_ ?_ es m out hrun
  · exact .waiting hpos ⟨rfl, rfl, rfl, rfl⟩
  · intro es m out e m' o _ ih hstep
    rw [List.countP_append, List.countP_singleton, List.countP_append, List.countP_singleton]
    exact ih.step (transition_of_step hstep)

def monitoring (self : LocalMonitor) : Monitoring :=
  { poller := self.poller, engine := self.alertEngine }

/-- A whole iteration is a poll, of which it processed the first `k` states. -/
theorem Iterates.inPoll {r : IterationRecord} (h : Iterates m₁ r m) :
    ∃ out input clock k, InPoll m₁ input clock k m out ∧ m.position = .sleeping ∧
      sends out = r.sends ∧ r.polled = m₁.poller.states input ∧
      r.processed = m₁.poller.wanGateways.keys.take k := by
  obtain ⟨es, out, hrun, hcount, hpos, hpos', hpolled, hsent, hprocessed⟩ := h
  have hphase := phase_run hpos hrun
  rw [hcount] at hphase
  generalize es.countP MonitorEvent.isProcess = k at hphase hprocessed
  cases hphase with
  | polling interval hpolling _ => simp [hpos'] at hpolling
  | beyond hn => omega
  | inPoll input clock h =>
      have hstates : r.polled = m₁.poller.states input :=
        List.singleton_injective (hpolled.symm.trans h.polled)
      rw [hstates, keys_states] at hprocessed
      exact ⟨out, input, clock, k, h, hpos', hsent, hstates, hprocessed⟩

/-- An iteration is one round over the WANs it processed: all of them unless a send
raised, which drops those after it. -/
theorem Iterates.round {r : IterationRecord} (h : Iterates m₁ r m) :
    ∃ rd : Round, rd.order = r.processed ∧
      m.monitoring = (m₁.monitoring.round rd).1 ∧
      r.sends.map Prod.fst = (m₁.monitoring.round rd).2 ∧
      r.polled = m₁.poller.states rd.input ∧
      r.processed <+: m₁.poller.wanGateways.keys ∧
      (r.processed = m₁.poller.wanGateways.keys ∨ ∃ p ∈ r.sends, p.2 = .raised) := by
  obtain ⟨out, input, clock, k, h, hpos, hsent, hstates, hprocessed⟩ := h.inPoll
  let rd : Round := { input := input, order := r.processed, clock := clock }
  have hprefix : r.processed <+: m₁.poller.wanGateways.keys :=
    hprocessed ▸ List.take_prefix k _
  have hvisits : rd.Visits m₁.poller.wanGateways :=
    ⟨m₁.poller.wanGateways.keys_nodup.sublist hprefix.sublist,
      fun _ hname ↦ hprefix.subset hname⟩
  have htake : rd.order.filterMap (m₁.poller.states rd.input).get? =
      (m₁.poller.states input).values.take k := by
    rw [values_states, ← List.map_take, ← hprocessed]
    exact m₁.monitoring.filterMap_states hvisits
  have hround : m₁.monitoring.round rd =
      ({ poller := (m₁.poller.poll input).1
         engine := (m₁.alertEngine.processStates (m₁.poller.states input) clock
          ((m₁.poller.states input).values.take k)).1 },
        (m₁.alertEngine.processStates (m₁.poller.states input) clock
          ((m₁.poller.states input).values.take k)).2) := by
    rw [← htake]
    rfl
  have hqueued : m.queued = [] := by rw [queued, hpos]
  have halerts := h.alerts
  rw [hqueued, List.append_nil] at halerts
  refine ⟨rd, rfl, ?_, ?_, hstates, hprefix, ?_⟩
  · rw [hround, monitoring, h.poller, h.engine]
  · rw [hround, ← hsent, halerts]
  · rw [← hsent]
    refine h.remaining.imp (fun hleft ↦ ?_) And.right
    have hnone : (m₁.poller.states input).values.drop k = [] := by
      rw [← hleft, unprocessed, hpos]
    rw [values_states, ← List.map_drop, List.map_eq_nil_iff, List.drop_eq_nil_iff] at hnone
    rw [hprocessed, List.take_of_length_le hnone]

/-- A send that raises is the last one of its iteration and that of the last WAN
processed. -/
theorem Iterates.raises_last {r : IterationRecord} (h : Iterates m₁ r m)
    {before after : List (AlertEvent × SendResult)} {p : AlertEvent × SendResult}
    (hsplit : r.sends = before ++ p :: after) (hraised : p.2 = .raised) :
    after = [] ∧ ∃ name ∈ r.processed.getLast?, ∃ state ∈ r.polled.get? name,
      p.1.title = AlertEngine.wanTitle name state.status := by
  obtain ⟨out, input, clock, k, h, -, hsent, hstates, hprocessed⟩ := h.inPoll
  obtain ⟨hafter, state, hlast, htitle⟩ :=
    h.lastRaises.raised before p after (hsent.trans hsplit) hraised
  refine ⟨hafter, ?_⟩
  rw [values_states, ← List.map_take, List.getLast?_map] at hlast
  obtain ⟨name, hname, rfl⟩ := Option.mem_map.mp hlast
  rw [← hprocessed] at hname
  have hkey : name ∈ m₁.poller.wanGateways.keys :=
    List.mem_of_mem_take (hprocessed ▸ List.mem_of_getLast? hname)
  refine ⟨name, hname, m₁.poller.wanState input name, ?_, htitle⟩
  rw [hstates, m₁.poller.get?_states input hkey]
  rfl

end LocalMonitor

end WanRouter
