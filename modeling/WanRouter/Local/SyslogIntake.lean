import WanRouter.Local.SyslogDispatch
import WanRouter.Local.SyslogErasure
import WanRouter.Local.SyslogGrammar
import WanRouter.Local.WanExtraction

/-!
# From a datagram to its alert

The local monitor with its syslog receiver, whose only callback is
`_on_syslog_event`, and with `_status_loop`, which reads and resets the count.  A
datagram runs through the parser, the dispatch, the engine and `send_alert` while
the loops are suspended.
-/

namespace WanRouter

open OrderedDict

inductive SyslogCallback where
  | onSyslogEvent
  deriving DecidableEq

/-- A datagram with the clock readings of the parser and of the engine. -/
structure Arrival where
  text : String
  addr : String × ℕ
  now : ℤ
  later : ℤ
  processed : ℤ

/-- The callback does not reset the count, and nothing in it raises. -/
def Arrival.datagram (a : Arrival) : Datagram where
  text := a.text
  addr := a.addr
  now := a.now
  later := a.later
  reaction := fun _ ↦ {}

/-- A `LocalMonitor` whose syslog section is enabled. -/
structure ListeningMonitor where
  receiver : SyslogReceiver SyslogCallback
  monitor : LocalMonitor

inductive IntakeEvent where
  /-- A step of the loops. -/
  | loops (event : {event : MonitorEvent // event.isSyslog = false})
  | arrived (a : Arrival)
  /-- The sleep of the status loop is over. -/
  | status

inductive IntakeOutput where
  | monitor (output : MonitorOutput)
  | receiver (output : ReceiverOutput SyslogCallback)

namespace IntakeOutput

def monitor? : IntakeOutput → Option MonitorOutput
  | .monitor output => some output
  | .receiver _ => none

def receiver? : IntakeOutput → Option (ReceiverOutput SyslogCallback)
  | .monitor _ => none
  | .receiver output => some output

end IntakeOutput

namespace ListeningMonitor

open ReceiverOutput

def init (config : LocalConfig) (telegram : TelegramNotifier) : ListeningMonitor where
  receiver := SyslogReceiver.withCallbacks [.onSyslogEvent]
  monitor := LocalMonitor.init config telegram

/-- The events that reach the callback, as steps of the monitor. -/
def callbacks (now : ℤ) (out : List (ReceiverOutput SyslogCallback)) : List MonitorEvent :=
  (out.filterMap delivery?).map fun d ↦ .syslog now d.2

def step (u : UnicodeData) (self : ListeningMonitor) :
    IntakeEvent → Option (ListeningMonitor × List IntakeOutput)
  | .loops event =>
      (self.monitor.step event).map fun p ↦ ({ self with monitor := p.1 }, p.2.map .monitor)
  | .arrived a =>
      if self.monitor.suspended then
        let received := self.receiver.datagramReceived u a.datagram
        (Machine.run LocalMonitor.step self.monitor (callbacks a.processed received.2)).map fun p ↦
          ({ receiver := received.1, monitor := p.1 },
            received.2.map .receiver ++ p.2.map .monitor)
      else none
  | .status =>
      if self.monitor.suspended then
        some ({ self with receiver := self.receiver.resetCount.1 },
          [.receiver (.count self.receiver.resetCount.2)])
      else none

/-! ## The two components -/

variable {u : UnicodeData} {l l' t : ListeningMonitor} {e : IntakeEvent} {es : List IntakeEvent}
  {out o : List IntakeOutput}

def monitorEvents (u : UnicodeData) : IntakeEvent → List MonitorEvent
  | .loops event => [event]
  | .arrived a => (a.datagram.event? u).toList.map (.syslog a.processed)
  | .status => []

def receiverEvents : IntakeEvent → List ReceiverEvent
  | .loops _ => []
  | .arrived a => [.datagramReceived a.datagram]
  | .status => [.resetCount]

theorem filterMap_monitor (out : List MonitorOutput) :
    (out.map IntakeOutput.monitor).filterMap IntakeOutput.monitor? = out := by
  simp [List.filterMap_map, Function.comp_def, IntakeOutput.monitor?]

theorem filterMap_monitor_receiver (out : List (ReceiverOutput SyslogCallback)) :
    (out.map IntakeOutput.receiver).filterMap IntakeOutput.monitor? = [] := by
  simp [IntakeOutput.monitor?]

theorem filterMap_receiver (out : List (ReceiverOutput SyslogCallback)) :
    (out.map IntakeOutput.receiver).filterMap IntakeOutput.receiver? = out := by
  simp [List.filterMap_map, Function.comp_def, IntakeOutput.receiver?]

theorem filterMap_receiver_monitor (out : List MonitorOutput) :
    (out.map IntakeOutput.monitor).filterMap IntakeOutput.receiver? = [] := by
  simp [IntakeOutput.receiver?]

theorem callbacks_datagramReceived (a : Arrival)
    (hcallbacks : l.receiver.callbacks = [.onSyslogEvent]) :
    callbacks a.processed (l.receiver.datagramReceived u a.datagram).2 =
        (a.datagram.event? u).toList.map (.syslog a.processed) ∧
      (l.receiver.datagramReceived u a.datagram).1.callbacks = [.onSyslogEvent] := by
  have haccounts := SyslogReceiver.accounts_step (u := u) l.receiver (.datagramReceived a.datagram)
  have hdelivered := haccounts.delivered
  refine ⟨?_, haccounts.callbacks.trans hcallbacks⟩
  rw [SyslogReceiver.step] at hdelivered
  rw [callbacks, hdelivered, SyslogReceiver.deliveries, hcallbacks]
  cases hevent : ReceiverEvent.parsed? u (.datagramReceived a.datagram) with
  | none =>
      rw [ReceiverEvent.parsed?] at hevent
      rw [hevent]
      rfl
  | some event =>
      rw [ReceiverEvent.parsed?] at hevent
      rw [hevent]
      rfl

/-- What a step is for the monitor. -/
theorem monitor_step (hcallbacks : l.receiver.callbacks = [.onSyslogEvent])
    (hstep : l.step u e = some (l', o)) :
    Machine.run LocalMonitor.step l.monitor (monitorEvents u e) =
        some (l'.monitor, o.filterMap IntakeOutput.monitor?) ∧
      l'.receiver.callbacks = [.onSyslogEvent] := by
  cases e with
  | loops event =>
      obtain ⟨⟨m, o'⟩, hevent, heq⟩ := Option.map_eq_some_iff.mp hstep
      cases heq
      refine ⟨?_, hcallbacks⟩
      rw [monitorEvents, Machine.run_singleton, hevent, filterMap_monitor]
  | arrived a =>
      simp only [step, Option.ite_none_right_eq_some, Option.map_eq_some_iff] at hstep
      obtain ⟨-, ⟨m, o'⟩, hrun, heq⟩ := hstep
      obtain ⟨hevents, hkept⟩ := callbacks_datagramReceived (u := u) a hcallbacks
      generalize l.receiver.datagramReceived u a.datagram = received at hrun heq hevents hkept
      cases heq
      refine ⟨?_, hkept⟩
      rw [hevents] at hrun
      rw [monitorEvents, hrun, List.filterMap_append, filterMap_monitor_receiver,
        filterMap_monitor, List.nil_append]
  | status =>
      simp only [step, Option.ite_none_right_eq_some] at hstep
      obtain ⟨-, heq⟩ := hstep
      cases heq
      exact ⟨rfl, hcallbacks⟩

/-- What a step is for the receiver. -/
theorem receiver_step (hstep : l.step u e = some (l', o)) :
    l'.receiver = Mealy.run (SyslogReceiver.step u) l.receiver (receiverEvents e) ∧
      o.filterMap IntakeOutput.receiver? =
        (Mealy.outputs (SyslogReceiver.step u) l.receiver (receiverEvents e)).flatten := by
  cases e with
  | loops event =>
      obtain ⟨⟨m, o'⟩, -, heq⟩ := Option.map_eq_some_iff.mp hstep
      cases heq
      exact ⟨rfl, filterMap_receiver_monitor o'⟩
  | arrived a =>
      simp only [step, Option.ite_none_right_eq_some, Option.map_eq_some_iff] at hstep
      obtain ⟨-, ⟨m, o'⟩, -, heq⟩ := hstep
      rw [receiverEvents, Mealy.run_cons, Mealy.run_nil, Mealy.outputs_cons, Mealy.outputs_nil,
        List.flatten_singleton, SyslogReceiver.step]
      generalize l.receiver.datagramReceived u a.datagram = received at heq
      cases heq
      refine ⟨rfl, ?_⟩
      rw [List.filterMap_append, filterMap_receiver, filterMap_receiver_monitor, List.append_nil]
  | status =>
      simp only [step, Option.ite_none_right_eq_some] at hstep
      obtain ⟨-, heq⟩ := hstep
      cases heq
      exact ⟨rfl, rfl⟩

variable {config : LocalConfig} {telegram : TelegramNotifier}

theorem callbacks_init (config : LocalConfig) (telegram : TelegramNotifier) :
    (init config telegram).receiver.callbacks = [.onSyslogEvent] := rfl

theorem monitor_run (hrun : Machine.run (step u) (init config telegram) es = some (t, out)) :
    Machine.run LocalMonitor.step (LocalMonitor.init config telegram)
        (es.flatMap (monitorEvents u)) = some (t.monitor, out.filterMap IntakeOutput.monitor?) ∧
      t.receiver.callbacks = [.onSyslogEvent] := by
  have hcomponent : ∃ m, Machine.run LocalMonitor.step (LocalMonitor.init config telegram)
      (es.flatMap (monitorEvents u)) = some (m, out.filterMap IntakeOutput.monitor?) ∧
        m = t.monitor ∧ t.receiver.callbacks = [.onSyslogEvent] := by
    apply Machine.run_component ?_ ⟨rfl, callbacks_init config telegram⟩ hrun
    rintro l m e l' o ⟨rfl, hcallbacks⟩ hstep
    obtain ⟨hmonitor, hkept⟩ := monitor_step hcallbacks hstep
    exact ⟨_, hmonitor, rfl, hkept⟩
  obtain ⟨m, hmonitor, rfl, hcallbacks⟩ := hcomponent
  exact ⟨hmonitor, hcallbacks⟩

theorem receiver_run (hrun : Machine.run (step u) (init config telegram) es = some (t, out)) :
    t.receiver = Mealy.run (SyslogReceiver.step u) (init config telegram).receiver
        (es.flatMap receiverEvents) ∧
      out.filterMap IntakeOutput.receiver? = (Mealy.outputs (SyslogReceiver.step u)
        (init config telegram).receiver (es.flatMap receiverEvents)).flatten := by
  refine Machine.run_induction (step u)
    (P := fun es t out ↦ t.receiver = Mealy.run (SyslogReceiver.step u)
        (init config telegram).receiver (es.flatMap receiverEvents) ∧
      out.filterMap IntakeOutput.receiver? = (Mealy.outputs (SyslogReceiver.step u)
        (init config telegram).receiver (es.flatMap receiverEvents)).flatten)
    ⟨(Mealy.run_nil _ _).symm, List.filterMap_nil⟩ ?_ es t out hrun
  rintro es m out e t o - ⟨hreceiver, houtputs⟩ hstep
  obtain ⟨hlast, hshown⟩ := receiver_step hstep
  rw [List.flatMap_append, List.flatMap_singleton, Mealy.run_append, Mealy.outputs_append,
    List.flatten_append, List.filterMap_append, ← hreceiver, ← houtputs]
  exact ⟨hlast, congrArg _ hshown⟩

/-! ## The alerts of a datagram -/

/-- The alerts that an arrived datagram leads to. -/
def alertsOf (u : UnicodeData) (config : LocalConfig) (a : Arrival) : List AlertEvent :=
  (a.datagram.event? u).toList.flatMap fun event ↦
    (LocalMonitor.init config {}).alertEngine.processSyslogEvent a.processed event

/-- The text is a syslog line whose message tells the event of the phrase about `w`: it is the
first of the phrases that occur, found at its leftmost place. -/
def Tells (u : UnicodeData) (a : Arrival) (k : WanPhrase) (w : List Char) : Prop :=
  ∃ line : ParsedLine u, u.strip a.text.toList = line.text ∧
    line.priority.length ≤ UnicodeData.maxStrDigits ∧
    firstPhrase? wanPhrases line.message = some k ∧ k.Found line.message w

theorem event?_eq_some_iff (a : Arrival) (event : SyslogEvent) :
    a.datagram.event? u = some event ↔
      ∃ line : ParsedLine u, u.strip a.text.toList = line.text ∧
        line.priority.length ≤ UnicodeData.maxStrDigits ∧
        event = line.event a.now a.later a.text := by
  rw [← parse_eq_some_iff, Datagram.event?, Arrival.datagram]
  dsimp only
  cases parseSyslogMessage u a.now a.later a.text <;> simp

theorem found_unique {k : WanPhrase} {message w w' : List Char} (h : k.Found message w)
    (h' : k.Found message w') : w = w' := by
  obtain ⟨text, hleft, hreads, hleast⟩ := h
  obtain ⟨text', hleft', hreads', hleast'⟩ := h'
  obtain rfl := hleft.unique hleft'
  have hle : w.length ≤ w'.length := hleast w' hreads'
  have hle' : w'.length ≤ w.length := hleast' w hreads
  exact (hreads.prefix_of_length_le hreads' hle).eq_of_length (Nat.le_antisymm hle hle')

theorem category_event (line : ParsedLine u) (now later : ℤ) (raw : String) :
    ((line.event now later raw).category, (line.event now later raw).metadata) =
      categorizeMessage u (String.ofList line.message) := rfl

theorem alertsOf_of_event {a : Arrival} {event : SyslogEvent}
    (h : a.datagram.event? u = some event) :
    alertsOf u config a =
      (LocalMonitor.init config {}).alertEngine.processSyslogEvent a.processed event := by
  rw [alertsOf, h, Option.toList_some, List.flatMap_singleton]

theorem alertsOf_tells {a : Arrival} {k : WanPhrase} {w : List Char} (h : Tells u a k w) :
    AlertsNaming (alertSeverity? k.eventType) w (alertsOf u config a) := by
  obtain ⟨line, hraw, hle, hfirst, hfound⟩ := h
  have hwan : wanEvent? (String.ofList line.message).toList = some (k.eventType, w) := by
    rw [String.toList_ofList]
    rcases wanEvent?_cases line.message with ⟨k', w', hevent, hfirst', hfound'⟩ | ⟨-, hnone⟩
    · obtain rfl : k = k' := Option.some.inj (hfirst.symm.trans hfirst')
      rwa [found_unique hfound hfound']
    · rw [hfirst] at hnone
      cases hnone
  have hcategory := (category_event line a.now a.later a.text).trans
    (categorizeMessage_of_wanEvent u hwan)
  obtain ⟨hcategory, hmetadata⟩ := Prod.mk.inj hcategory
  rw [alertsOf_of_event ((event?_eq_some_iff a _).mpr ⟨line, hraw, hle, rfl⟩)]
  exact alertsNaming_processSyslogEvent _ _ (List.mem_of_find?_eq_some hfirst) hcategory hmetadata

theorem alertsOf_of_quiet {a : Arrival} {line : ParsedLine u}
    (hevent : a.datagram.event? u = some (line.event a.now a.later a.text))
    (hquiet : wanEvent? line.message = none) : alertsOf u config a = [] := by
  have hcategory : (line.event a.now a.later a.text).category ≠ "wan" := by
    change (categorizeMessage u (String.ofList line.message)).1 ≠ "wan"
    rw [categorizeMessage, String.toList_ofList, hquiet]
    exact keywordCategory_ne_wan u _
  rw [alertsOf_of_event hevent]
  exact if_neg hcategory

theorem alertsOf_eq_nil {a : Arrival} (h : ∀ k w, ¬Tells u a k w) :
    alertsOf u config a = [] := by
  cases hevent : a.datagram.event? u with
  | none => rw [alertsOf, hevent, Option.toList_none, List.flatMap_nil]
  | some event =>
      obtain ⟨line, hraw, hle, rfl⟩ := (event?_eq_some_iff a event).mp hevent
      apply alertsOf_of_quiet hevent
      rcases wanEvent?_cases line.message with ⟨k, w, -, hfirst, hfound⟩ | ⟨hnone, -⟩
      · exact (h k w ⟨line, hraw, hle, hfirst, hfound⟩).elim
      · exact hnone

/-! ## Runs -/

def arrived? : IntakeEvent → Option Arrival
  | .arrived a => some a
  | _ => none

def arrivals (es : List IntakeEvent) : List Arrival := es.filterMap arrived?

def loopEvent? : IntakeEvent → Option MonitorEvent
  | .loops event => some event
  | _ => none

/-- The alerts handed to `send_alert` by the syslog callback. -/
def dispatched (out : List IntakeOutput) : List AlertEvent :=
  (out.filterMap IntakeOutput.monitor?).filterMap MonitorOutput.dispatched?

/-- The counts that the status loop has read. -/
def counts (out : List IntakeOutput) : List ℕ :=
  (out.filterMap IntakeOutput.receiver?).filterMap count?

theorem dispatched_append (out o : List IntakeOutput) :
    dispatched (out ++ o) = dispatched out ++ dispatched o := by
  rw [dispatched, List.filterMap_append, List.filterMap_append]
  rfl

theorem counts_append (out o : List IntakeOutput) : counts (out ++ o) = counts out ++ counts o := by
  rw [counts, List.filterMap_append, List.filterMap_append]
  rfl

theorem filter_monitorEvents (es : List IntakeEvent) :
    (es.flatMap (monitorEvents u)).filter (fun e ↦ !e.isSyslog) = es.filterMap loopEvent? := by
  induction es with
  | nil => rfl
  | cons e es ih =>
      rw [List.flatMap_cons, List.filter_append, ih]
      cases e with
      | loops event => simp [monitorEvents, loopEvent?, event.2]
      | arrived a =>
          cases hevent : a.datagram.event? u <;>
            simp [monitorEvents, List.filterMap_cons, loopEvent?, hevent, MonitorEvent.isSyslog]
      | status => rfl

theorem syslogEvents (es : List IntakeEvent) :
    (es.flatMap (monitorEvents u)).filterMap MonitorEvent.syslog? =
      (arrivals es).flatMap fun a ↦ (a.datagram.event? u).toList.map fun event ↦
        (a.processed, event) := by
  induction es with
  | nil => rfl
  | cons e es ih =>
      rw [List.flatMap_cons, List.filterMap_append, ih]
      cases e with
      | loops event =>
          have hnone : MonitorEvent.syslog? event = none := by
            have hsyslog := event.2
            cases hevent : event.1 with
            | syslog now event' => simp [hevent, MonitorEvent.isSyslog] at hsyslog
            | _ => rfl
          simp [monitorEvents, arrivals, List.filterMap_cons, arrived?, hnone]
      | arrived a =>
          cases hevent : a.datagram.event? u <;>
            simp [monitorEvents, arrivals, arrived?, hevent, MonitorEvent.syslog?]
      | status => rfl

theorem parsed_receiverEvents (es : List IntakeEvent) :
    (es.flatMap receiverEvents).filterMap (·.parsed? u) =
      (arrivals es).filterMap fun a ↦ a.datagram.event? u := by
  induction es with
  | nil => rfl
  | cons e es ih =>
      rw [List.flatMap_cons, List.filterMap_append, ih]
      cases e with
      | arrived a =>
          cases hevent : a.datagram.event? u <;>
            simp [receiverEvents, arrivals, arrived?, hevent, ReceiverEvent.parsed?]
      | _ => rfl

theorem dispatched_run (hrun : Machine.run (step u) (init config telegram) es = some (t, out)) :
    dispatched out = (arrivals es).flatMap (alertsOf u config) := by
  have hsame (a : Arrival) : ((a.datagram.event? u).toList.map fun event ↦
      (a.processed, event)).flatMap (fun p ↦
        (LocalMonitor.init config telegram).alertEngine.processSyslogEvent p.1 p.2) =
      alertsOf u config a := by
    rw [List.flatMap_map, alertsOf]
    rfl
  rw [dispatched, (LocalMonitor.dispatched_run (monitor_run hrun).1).2, syslogEvents,
    List.flatMap_assoc]
  simp only [hsame]

/-- Every datagram leads to its own alerts and to no others, in the order of arrival and
whatever the loops do meanwhile: to one alert about `w` if its text tells a failover or a lost
link of `w`, and to none if it tells nothing.  The loops run as they would without datagrams,
and the counts of the status loop and the one that is left add up to the lines received. -/
theorem datagrams_alerted (u : UnicodeData) (config : LocalConfig) (telegram : TelegramNotifier)
    {es : List IntakeEvent} {t : ListeningMonitor} {out : List IntakeOutput}
    (hrun : Machine.run (step u) (init config telegram) es = some (t, out)) :
    dispatched out = (arrivals es).flatMap (alertsOf u config) ∧
      (∀ a k w, Tells u a k w →
        AlertsNaming (alertSeverity? k.eventType) w (alertsOf u config a)) ∧
      (∀ a, (∀ k w, ¬Tells u a k w) → alertsOf u config a = []) ∧
      (∃ m out', Machine.run LocalMonitor.step (LocalMonitor.init config telegram)
          (es.filterMap loopEvent?) = some (m, out') ∧
        LocalMonitor.AgreeOffEvents t.monitor m ∧
        (out.filterMap IntakeOutput.monitor?).filterMap MonitorOutput.ofLoops? =
          out'.filterMap MonitorOutput.ofLoops?) ∧
      (counts out).sum + t.receiver.messageCount =
        ((arrivals es).filterMap fun a ↦ a.datagram.event? u).length := by
  obtain ⟨hmonitor, -⟩ := monitor_run hrun
  obtain ⟨hreceiver, houtputs⟩ := receiver_run hrun
  refine ⟨dispatched_run hrun, fun _ _ _ ↦ alertsOf_tells, fun _ ↦ alertsOf_eq_nil, ?_, ?_⟩
  · rw [← filter_monitorEvents (u := u)]
    exact Machine.run_erase (fun _ _ _ _ _ ↦ LocalMonitor.AgreeOffEvents.hidden)
      (fun _ _ _ _ _ ↦ LocalMonitor.AgreeOffEvents.visible)
      (LocalMonitor.AgreeOffEvents.refl _) hmonitor
  · have haccounts := SyslogReceiver.accounts_run (u := u) (init config telegram).receiver
      (es.flatMap receiverEvents)
    have hcounted := haccounts.counted
    rw [← hreceiver, ← houtputs, parsed_receiverEvents] at hcounted
    exact hcounted.trans (Nat.zero_add _)

def failoverArrival : Arrival where
  text := "<5>Feb 6 1:2:3 R t: Backup [W2] took effect"
  addr := ("192.0.2.1", 514)
  now := 0
  later := 0
  processed := 0

/-- A failover reported while the first poll is out, and something that is no syslog line. -/
def failoverIntake : List IntakeEvent :=
  [.loops ⟨.startPoll, rfl⟩, .arrived failoverArrival, .arrived { failoverArrival with text := "" },
    .status]

theorem failoverIntake_alerted :
    ∃ t out, Machine.run (step .ascii) (init { router := dualWan } {}) failoverIntake =
        some (t, out) ∧
      (dispatched out).map AlertEvent.title = ["FAILOVER: W2 activated"] ∧
      (counts out).sum + t.receiver.messageCount = 1 := by
  have hsome : (Machine.run (step .ascii) (init { router := dualWan } {})
      failoverIntake).isSome = true := by decide
  obtain ⟨⟨t, out⟩, hrun⟩ := Option.isSome_iff_exists.mp hsome
  obtain ⟨hdispatched, -, -, -, hcounted⟩ := datagrams_alerted _ _ _ hrun
  refine ⟨t, out, hrun, ?_, ?_⟩
  · rw [hdispatched]
    decide
  · rw [hcounted]
    decide

end ListeningMonitor

end WanRouter
