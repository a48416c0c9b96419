import WanRouter.Local.HeartbeatAlerts
import WanRouter.Local.SyslogIntake
import WanRouter.Shared.TextParts

/-!
# What the texts handed to Telegram tell

`send_alert` turns an alert into one text.  The first line of a text names a WAN and its
new status, and no other text can be taken for one of these: not the text about
another WAN, and not what the syslog callback sends for any datagram whatsoever.  The
texts are those handed to `send_alert`, delivered or not.
-/

namespace WanRouter

open OrderedDict EdgeDetector AlertEngine TelegramNotifier

/-! ## The first line of a text -/

/-- The text begins like the alert about this status of the WAN. -/
def announces (name : String) (status : InterfaceStatus) (text : String) : Bool :=
  ("🔴 " ++ wanTitle name status ++ "\n\n").toList.isPrefixOf text.toList

/-- The status of the WAN that a text announces. -/
def announced? (name : String) (text : String) : Option InterfaceStatus :=
  if announces name .down text then some .down
  else if announces name .up text then some .up
  else none

theorem oneLine_wanTitle {name : String} (h : OneLine name) (status : InterfaceStatus) :
    OneLine (wanTitle name status) := by
  cases status with
  | down => exact h.append (by decide)
  | _ => exact h.append (by decide)

/-- Two lines that begin the same text are the same. -/
theorem eq_of_line_prefix {x y p q : List Char} (hx : '\n' ∉ x) (hy : '\n' ∉ y)
    (h : x ++ '\n' :: p <+: y ++ '\n' :: q) : x = y := by
  obtain ⟨rest, hrest⟩ := h
  have hline {l m : List Char} (hl : '\n' ∉ l) :
      (l ++ '\n' :: m).takeWhile (· ≠ '\n') = l := by
    rw [List.takeWhile_append_of_pos fun c hc ↦ by simpa using fun hn : c = '\n' ↦ hl (hn ▸ hc)]
    simp
  rw [← hline (m := p ++ rest) hx, ← hline (m := q) hy, ← hrest, List.append_assoc,
    List.cons_append]

theorem severity_of_announces {name : String} {status : InterfaceStatus} {alert : AlertEvent}
    (h : announces name status (alertText alert) = true) : alert.severity = .critical := by
  rw [announces, List.isPrefixOf_iff_prefix] at h
  obtain ⟨rest, hrest⟩ := h
  have hhead := congrArg List.head? hrest
  cases hseverity : alert.severity with
  | critical => rfl
  | info => simp [alertText, severityEmoji, hseverity, String.toList_append] at hhead
  | warning => simp [alertText, severityEmoji, hseverity, String.toList_append] at hhead

theorem toList_announcement (title : String) :
    ("🔴 " ++ title ++ "\n\n").toList = "🔴 ".toList ++ (title.toList ++ ['\n', '\n']) := by
  rw [String.toList_append, String.toList_append, List.append_assoc]
  rfl

theorem toList_alertText {alert : AlertEvent} (h : alert.severity = .critical) :
    (alertText alert).toList =
      "🔴 ".toList ++ (alert.title.toList ++ '\n' :: '\n' :: alert.message.toList) := by
  rw [alertText, h]
  simp only [severityEmoji, String.toList_append, List.append_assoc]
  rfl

/-- A text announces a status only by its first line. -/
theorem announces_alertText_iff {name : String} {alert : AlertEvent} (hname : OneLine name)
    (htitle : OneLine alert.title) (status : InterfaceStatus) :
    announces name status (alertText alert) = true ↔
      alert.severity = .critical ∧ alert.title = wanTitle name status := by
  constructor
  · intro h
    have hseverity := severity_of_announces h
    rw [announces, List.isPrefixOf_iff_prefix, toList_announcement, toList_alertText hseverity,
      List.prefix_append_right_inj] at h
    have hline := eq_of_line_prefix (oneLine_wanTitle hname status) htitle h
    exact ⟨hseverity, (String.toList_injective hline).symm⟩
  · rintro ⟨hseverity, heq⟩
    rw [announces, List.isPrefixOf_iff_prefix, toList_announcement, toList_alertText hseverity,
      List.prefix_append_right_inj, heq, List.prefix_append_right_inj]
    exact ⟨alert.message.toList, rfl⟩

/-- What an alert about the WAN tells. -/
def toldStatus (name : String) (alert : AlertEvent) : InterfaceStatus :=
  if alert.title = name ++ " DOWN" then .down else .up

theorem announced?_of_critical {name : String} {alert : AlertEvent} (hname : OneLine name)
    (htitle : OneLine alert.title) (hseverity : alert.severity = .critical) :
    announced? name (alertText alert) =
      if isWanAlert name alert then some (toldStatus name alert) else none := by
  have hdown := announces_alertText_iff hname htitle .down
  have hup := announces_alertText_iff hname htitle .up
  simp only [hseverity, true_and, wanTitle] at hdown hup
  by_cases hlost : alert.title = name ++ " DOWN"
  · simp [announced?, hdown.mpr hlost, isWanAlert, toldStatus, hlost]
  · have hnot : announces name .down (alertText alert) = false :=
      Bool.eq_false_iff.mpr (hdown.not.mpr hlost)
    by_cases hrecovered : alert.title = name ++ " RECOVERED"
    · simp [announced?, hnot, hup.mpr hrecovered, isWanAlert, toldStatus, hrecovered]
    · have hnot' : announces name .up (alertText alert) = false :=
        Bool.eq_false_iff.mpr (hup.not.mpr hrecovered)
      simp [announced?, hnot, hnot', isWanAlert, hlost, hrecovered]

/-! ## The texts of the syslog callback -/

/-- The critical alerts of the callback end in the same word. -/
theorem title_of_mem_processSyslogEvent {engine : AlertEngine} {now : ℤ} {event : SyslogEvent}
    {w : String} (hmetadata : event.metadata.get? "wan_interface" = some w) {alert : AlertEvent}
    (h : alert ∈ engine.processSyslogEvent now event) :
    alert.severity = .warning ∨ ∃ before after, OneLine before ∧ OneLine after ∧
      alert.title = before ++ w ++ (after ++ "activated") := by
  simp only [processSyslogEvent, processWanSyslog, hmetadata, Option.getD_some] at h
  split_ifs at h
  · exact (List.not_mem_nil h).elim
  · obtain rfl := List.mem_singleton.mp h
    exact Or.inr ⟨"FAILOVER: ", " ", by decide, by decide, rfl⟩
  · obtain rfl := List.mem_singleton.mp h
    exact Or.inr ⟨"FAILOVER ENDED: ", " de", by decide, by decide, rfl⟩
  · obtain rfl := List.mem_singleton.mp h
    exact Or.inl rfl
  · exact (List.not_mem_nil h).elim
  · exact (List.not_mem_nil h).elim

theorem ne_wanTitle_of_append {text before after : String}
    (h : text = before ++ (after ++ "activated")) (name : String) (status : InterfaceStatus) :
    text ≠ wanTitle name status := by
  intro heq
  have hlast := congrArg (fun s ↦ s.toList.getLast?) (h.symm.trans heq)
  cases status <;> simp [wanTitle, String.toList_append, List.getLast?_append] at hlast

variable {u : UnicodeData} {config : LocalConfig}

/-- The event of a datagram names its interface in one line. -/
theorem oneLine_of_wanEvent {message w : List Char} {eventType : String}
    (h : wanEvent? message = some (eventType, w)) : OneLine (String.ofList w) := by
  rcases wanEvent?_cases message with ⟨k, w', hevent, -, _, -, hreads, -⟩ | ⟨hnone, -⟩
  · obtain ⟨-, rfl⟩ := Prod.mk.inj (Option.some.inj (h.symm.trans hevent))
    rw [OneLine, String.toList_ofList]
    intro hmem
    exact absurd (hreads.1.2 _ hmem) (by decide)
  · cases h.symm.trans hnone

theorem announced?_of_syslog {name : String} (hname : OneLine name) {engine : AlertEngine}
    {now : ℤ} {event : SyslogEvent} {w : String} (hw : OneLine w)
    (hmetadata : event.metadata.get? "wan_interface" = some w) {alert : AlertEvent}
    (h : alert ∈ engine.processSyslogEvent now event) :
    announced? name (alertText alert) = none := by
  have hquiet : ∀ status, announces name status (alertText alert) = false := by
    intro status
    apply Bool.eq_false_iff.mpr
    intro htrue
    rcases title_of_mem_processSyslogEvent hmetadata h with
      hwarning | ⟨before, after, hbefore, hafter, htitle⟩
    · have hcritical := severity_of_announces htrue
      simp [hwarning] at hcritical
    · have hline : OneLine alert.title := by
        rw [htitle]
        exact (hbefore.append hw).append (hafter.append (by decide))
      have heq := ((announces_alertText_iff hname hline status).mp htrue).2
      exact ne_wanTitle_of_append htitle name status heq
  rw [announced?, hquiet, hquiet]
  rfl

/-- No datagram makes the callback announce the status of a WAN. -/
theorem announced?_of_mem_alertsOf {a : Arrival} {alert : AlertEvent}
    (halert : alert ∈ ListeningMonitor.alertsOf u config a) {name : String}
    (hname : OneLine name) : announced? name (alertText alert) = none := by
  cases hevent : a.datagram.event? u with
  | none =>
      rw [ListeningMonitor.alertsOf, hevent] at halert
      exact (List.not_mem_nil halert).elim
  | some event =>
      obtain ⟨line, -, -, rfl⟩ := (ListeningMonitor.event?_eq_some_iff a event).mp hevent
      cases hwan : wanEvent? line.message with
      | none =>
          rw [ListeningMonitor.alertsOf_of_quiet hevent hwan] at halert
          exact (List.not_mem_nil halert).elim
      | some found =>
          obtain ⟨eventType, w⟩ := found
          have hmetadata : (line.event a.now a.later a.text).metadata.get? "wan_interface" =
              some (String.ofList w) := by
            have hcategory : categorizeMessage u (String.ofList line.message) =
                ("wan", wanMetadata eventType (String.ofList w)) :=
              categorizeMessage_of_wanEvent u (by rw [String.toList_ofList, hwan])
            change (categorizeMessage u (String.ofList line.message)).2.get? "wan_interface" = _
            rw [hcategory]
            exact get?_wanMetadata_interface _ _
          rw [ListeningMonitor.alertsOf_of_event hevent] at halert
          exact announced?_of_syslog hname (oneLine_of_wanEvent hwan) hmetadata halert

/-! ## The texts of the poll loop -/

/-- The alert tells of a change of one of these WANs. -/
def IsChange (names : List String) (alert : AlertEvent) : Prop :=
  alert.severity = .critical ∧ ∃ name ∈ names, ∃ status, alert.title = wanTitle name status

theorem isChange_of_mem_processWanState {names : List String} {engine : AlertEngine} {now : ℤ}
    {state : WANState} {allStates : Option (Dict String WANState)}
    (hname : state.interface ∈ names) {alert : AlertEvent}
    (h : alert ∈ (engine.processWanState now state allStates).2) : IsChange names alert := by
  by_cases hs : (engine.alertState state.interface).shouldAlert state.status = true
  · rw [processWanState, if_pos hs] at h
    cases hstatus : state.status with
    | unknown => simp [changeAlerts, hstatus] at h
    | up =>
        simp only [changeAlerts, hstatus, List.mem_singleton] at h
        subst h
        exact ⟨rfl, state.interface, hname, .up, rfl⟩
    | down =>
        simp only [changeAlerts, hstatus, List.mem_singleton] at h
        subst h
        exact ⟨rfl, state.interface, hname, .down, rfl⟩
  · rw [processWanState, if_neg hs] at h
    exact (List.not_mem_nil h).elim

namespace LocalMonitor

variable {names : List String} {m t : LocalMonitor} {e : MonitorEvent} {o out : List MonitorOutput}

/-- The loop works on the configured WANs and hands over changes of these only. -/
structure TellsWans (names : List String) (m : LocalMonitor) (out : List MonitorOutput) :
    Prop where
  gateways : m.poller.wanGateways.keys = names
  unprocessed : ∀ state ∈ m.unprocessed, state.interface ∈ names
  handed : ∀ alert ∈ m.handed out, IsChange names alert

theorem handed_append (m : LocalMonitor) (out o : List MonitorOutput) :
    m.handed (out ++ o) = (sends out).map Prod.fst ++ ((sends o).map Prod.fst ++ m.queued) := by
  rw [LocalMonitor.handed, sends_append, List.map_append, List.append_assoc]

/-- A step that hands over at most what was waiting. -/
theorem TellsWans.frame (h : TellsWans names m out)
    (hgateways : t.poller.wanGateways = m.poller.wanGateways)
    (hunprocessed : t.unprocessed ⊆ m.unprocessed)
    (hqueued : (sends o).map Prod.fst ++ t.queued ⊆ m.queued) : TellsWans names t (out ++ o) where
  gateways := hgateways ▸ h.gateways
  unprocessed := fun state hstate ↦ h.unprocessed state (hunprocessed hstate)
  handed := by
    rw [handed_append]
    intro alert halert
    rcases List.mem_append.mp halert with halert | halert
    · exact h.handed alert (List.mem_append_left _ halert)
    · exact h.handed alert (List.mem_append_right _ (hqueued halert))

theorem TellsWans.step (h : TellsWans names m out) (htrans : Transition m e t o) :
    TellsWans names t (out ++ o) := by
  cases htrans with
  | startPoll hpos => exact h.frame rfl (List.nil_subset _) (List.nil_subset _)
  | polled input interval hpos =>
      refine ⟨h.gateways, ?_, ?_⟩
      · intro state hstate
        change state ∈ (m.poller.states input).values at hstate
        rw [m.poller.values_states, h.gateways] at hstate
        obtain ⟨name, hname, rfl⟩ := List.mem_map.mp hstate
        exact hname
      · rw [handed_append]
        intro alert halert
        exact h.handed alert (List.mem_append_left _ (by simpa [sends, MonitorOutput.sent?,
          LocalMonitor.queued] using halert))
  | @process now interval allStates state remaining hpos =>
      have hunprocessed : m.unprocessed = state :: remaining := by
        rw [LocalMonitor.unprocessed, hpos]
      refine ⟨?_, ?_, ?_⟩
      · rw [deliver_poller]
        exact h.gateways
      · rw [unprocessed_deliver]
        exact fun s hs ↦ h.unprocessed s (by rw [hunprocessed]; exact List.mem_cons_of_mem _ hs)
      · rw [handed_append, queued_deliver]
        intro alert halert
        rcases List.mem_append.mp halert with halert | halert
        · exact h.handed alert (List.mem_append_left _ halert)
        · exact isChange_of_mem_processWanState
            (h.unprocessed state (by rw [hunprocessed]; exact List.mem_cons_self)) halert
  | finish hpos => exact h.frame rfl (List.nil_subset _) (List.nil_subset _)
  | @sendReturned reply ok interval allStates remaining alert later hpos hresult =>
      refine h.frame (by rw [deliver_poller]) ?_ ?_
      · rw [unprocessed_deliver, LocalMonitor.unprocessed, hpos]
        exact List.Subset.refl _
      · rw [queued_deliver, LocalMonitor.queued, hpos]
        exact List.Subset.refl _
  | @sendRaised reply interval allStates remaining alert later hpos hresult =>
      refine h.frame rfl (List.nil_subset _) ?_
      rw [LocalMonitor.queued, LocalMonitor.queued, hpos]
      exact List.cons_subset_cons _ (List.nil_subset _)
  | heartbeat now hsuspended => exact h.frame rfl (List.Subset.refl _) (List.Subset.refl _)
  | syslog now event hsuspended =>
      refine h.frame rfl (List.Subset.refl _) ?_
      rw [sends_dispatched]
      exact List.Subset.refl _

theorem tellsWans_run {config : LocalConfig} {telegram : TelegramNotifier}
    {es : List MonitorEvent} (hrun : Machine.run step (init config telegram) es = some (m, out)) :
    TellsWans config.router.wanGateways.keys m out := by
  refine Machine.run_induction step
    (P := fun _ m out ↦ TellsWans config.router.wanGateways.keys m out)
    ⟨rfl, by simp [LocalMonitor.unprocessed, init], by
      simp [LocalMonitor.handed, LocalMonitor.queued, init, sends]⟩ ?_ es m out hrun
  intro es m out e t o _ ih hstep
  exact ih.step (transition_of_step hstep)

end LocalMonitor

/-! ## The texts of a run -/

def MonitorOutput.told? : MonitorOutput → Option AlertEvent
  | .sent alert _ => some alert
  | .dispatched alert => some alert
  | _ => none

theorem filterMap_told {α : Type*} (g : AlertEvent → Option α) {out : List MonitorOutput}
    (hquiet : ∀ alert ∈ out.filterMap MonitorOutput.dispatched?, g alert = none) :
    (out.filterMap MonitorOutput.told?).filterMap g =
      ((LocalMonitor.sends out).map Prod.fst).filterMap g := by
  induction out with
  | nil => rfl
  | cons output out ih =>
      cases output with
      | sent alert result =>
          have hrest := ih hquiet
          simp only [LocalMonitor.sends, List.filterMap_cons, MonitorOutput.told?,
            MonitorOutput.sent?, List.map_cons] at hrest ⊢
          rw [hrest]
      | dispatched alert =>
          have hnone : g alert = none := hquiet alert List.mem_cons_self
          have htold : (MonitorOutput.dispatched alert :: out).filterMap MonitorOutput.told? =
              alert :: out.filterMap MonitorOutput.told? := rfl
          rw [htold, List.filterMap_cons_none hnone]
          exact ih fun other hother ↦ hquiet other (List.mem_cons_of_mem _ hother)
      | _ => exact ih hquiet

theorem filterMap_ite {α β : Type*} (p : α → Bool) (f : α → β) (l : List α) :
    l.filterMap (fun a ↦ if p a then some (f a) else none) = (l.filter p).map f := by
  induction l with
  | nil => rfl
  | cons a l ih => cases h : p a <;> simp [h, ih]

namespace ListeningMonitor

/-- The texts handed to `send_alert` so far, delivered or not, with the one in flight. -/
def handedTexts (self : ListeningMonitor) (out : List IntakeOutput) : List String :=
  ((out.filterMap IntakeOutput.monitor?).filterMap MonitorOutput.told? ++
    self.monitor.queued).map alertText

variable {telegram : TelegramNotifier} {es : List IntakeEvent} {t : ListeningMonitor}
  {out : List IntakeOutput}

/-- What the texts announce about a WAN are the alerts of the poll loop about it. -/
theorem announced_handedTexts (hnames : ∀ name ∈ config.router.wanGateways.keys, OneLine name)
    (hrun : Machine.run (step u) (init config telegram) es = some (t, out)) {name : String}
    (hname : OneLine name) :
    (t.handedTexts out).filterMap (announced? name) =
      ((t.monitor.handed (out.filterMap IntakeOutput.monitor?)).filter
        (isWanAlert name)).map (toldStatus name) := by
  have hquiet : ∀ alert ∈
      (out.filterMap IntakeOutput.monitor?).filterMap MonitorOutput.dispatched?,
        (announced? name ∘ alertText) alert = none := by
    intro alert halert
    change alert ∈ dispatched out at halert
    rw [dispatched_run hrun] at halert
    obtain ⟨a, -, halert⟩ := List.mem_flatMap.mp halert
    exact announced?_of_mem_alertsOf halert hname
  have htells := LocalMonitor.tellsWans_run (monitor_run hrun).1
  rw [handedTexts, List.filterMap_map, List.filterMap_append, filterMap_told _ hquiet,
    ← List.filterMap_append, ← filterMap_ite]
  apply List.filterMap_congr
  intro alert halert
  obtain ⟨hseverity, wan, hwan, status, htitle⟩ := htells.handed alert halert
  exact announced?_of_critical hname (htitle ▸ oneLine_wanTitle (hnames wan hwan) status) hseverity

theorem down_iff_announced (hnames : ∀ name ∈ config.router.wanGateways.keys, OneLine name)
    (hrun : Machine.run (step u) (init config telegram) es = some (t, out)) {name : String}
    (hname : OneLine name) (now : ℤ) :
    ((t.monitor.heartbeatPayload now).wanStates.get? name).map WANState.status = some .down ↔
      ((t.handedTexts out).filterMap (announced? name)).getLast? = some .down := by
  rw [LocalMonitor.heartbeat_down_iff (monitor_run hrun).1, announced_handedTexts hnames hrun hname,
    List.getLast?_map, List.getLast?_map]
  cases ((t.monitor.handed (out.filterMap IntakeOutput.monitor?)).filter
    (isWanAlert name)).getLast? with
  | none => simp
  | some alert => by_cases h : alert.title = name ++ " DOWN" <;> simp [toldStatus, h]

/-- Whatever datagrams arrive and whatever the sends do, the texts handed to `send_alert` that
begin like alerts about a WAN announce DOWN and UP in turn, and the last of them announces DOWN
exactly if a heartbeat would report the WAN as DOWN. -/
theorem handed_texts_tell_status (u : UnicodeData) (config : LocalConfig)
    (telegram : TelegramNotifier)
    (hnames : ∀ name ∈ config.router.wanGateways.keys, OneLine name)
    {es : List IntakeEvent} {t : ListeningMonitor} {out : List IntakeOutput}
    (hrun : Machine.run (step u) (init config telegram) es = some (t, out)) {name : String}
    (hname : OneLine name) :
    Alternates InterfaceStatus.down .up ((t.handedTexts out).filterMap (announced? name)) ∧
    ∀ now, ((t.monitor.heartbeatPayload now).wanStates.get? name).map WANState.status =
        some .down ↔
      ((t.handedTexts out).filterMap (announced? name)).getLast? = some .down := by
  refine ⟨?_, down_iff_announced hnames hrun hname⟩
  have halternates := (LocalMonitor.alternates_handed (monitor_run hrun).1 name).map fun title ↦
    if title = name ++ " DOWN" then InterfaceStatus.down else .up
  have hne : name ++ " RECOVERED" ≠ name ++ " DOWN" := fun heq ↦
    absurd ((wanTitle_eq_down_iff name name .up).mp heq).2 (by decide)
  rw [if_pos rfl, if_neg hne, List.map_map] at halternates
  rw [announced_handedTexts hnames hrun hname]
  exact halternates

def ofLoops (es : List MonitorEvent) : List IntakeEvent :=
  es.filterMap fun e ↦ if h : e.isSyslog = false then some (.loops ⟨e, h⟩) else none

/-- A message that names an interface like a title arrives before the first poll is answered. -/
def misleadingIntake : List IntakeEvent :=
  ofLoops [.startPoll] ++
    [.arrived { failoverArrival with
      text := "<12>Feb  3 12:00:00 r Link: Backup [WAN1 DOWN] took effect" }] ++
    ofLoops [.polled (Round.answering "10.0.0.1").input, .process 0, .process 0]

theorem misleadingIntake_told :
    ∃ t out, Machine.run (step .ascii) (init { router := dualWan } {}) misleadingIntake =
        some (t, out) ∧
      Alternates InterfaceStatus.down .up ((t.handedTexts out).filterMap (announced? "WAN2")) ∧
      ((t.handedTexts out).filterMap (announced? "WAN2")).getLast? = some .down := by
  obtain ⟨⟨t, out⟩, hrun, hstatus⟩ : ∃ p, Machine.run (step .ascii)
      (init { router := dualWan } {}) misleadingIntake = some p ∧
        ((p.1.monitor.heartbeatPayload 0).wanStates.get? "WAN2").map WANState.status =
          some .down := by
    apply Option.map_eq_some_iff.mp
    decide
  have hnames : ∀ name ∈ dualWan.wanGateways.keys, OneLine name := by decide
  have htells := handed_texts_tell_status .ascii { router := dualWan } {} hnames hrun
    (show OneLine "WAN2" by decide)
  exact ⟨t, out, hrun, htells.1, (htells.2 0).mp hstatus⟩

end ListeningMonitor

end WanRouter
