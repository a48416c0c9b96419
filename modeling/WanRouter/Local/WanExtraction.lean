import WanRouter.Local.AlertEngine
import WanRouter.Local.WanPhrases

/-!
# Extraction of WAN events

When the text that a search reports is the name of one interface, and which alert
the engine then raises.
-/

namespace WanRouter

open OrderedDict Backtracking Pattern

/-! ## The metadata -/

theorem get?_wanMetadata_type (eventType name : String) :
    (wanMetadata eventType name).get? "wan_event_type" = some eventType := by
  rw [wanMetadata, Dict.get?_set_of_ne _ _ (by decide), Dict.get?_set_self]

theorem get?_wanMetadata_interface (eventType name : String) :
    (wanMetadata eventType name).get? "wan_interface" = some name := by
  rw [wanMetadata, Dict.get?_set_self]

variable (u : UnicodeData)

theorem keywordCategory_ne_wan (message : List Char) : keywordCategory u message ≠ "wan" := by
  simp only [keywordCategory]
  split_ifs <;> decide

theorem categorizeMessage_of_wanEvent {message : String} {eventType : String} {w : List Char}
    (h : wanEvent? message.toList = some (eventType, w)) :
    categorizeMessage u message = ("wan", wanMetadata eventType (String.ofList w)) := by
  rw [categorizeMessage, h]

/-! ## Soundness -/

/-- A message that is categorised as a WAN event contains the phrase of the event around the
interface, which is free of brackets. -/
def SoundExtraction (message : String) : Prop :=
  (categorizeMessage u message).1 = "wan" → ∃ k ∈ wanPhrases, ∃ w : List Char,
    (categorizeMessage u message).2 = wanMetadata k.eventType (String.ofList w) ∧
      '[' ∉ w ∧ ']' ∉ w ∧ ∃ tail ∈ k.tails, k.head ++ (w ++ tail) <:+: message.toList

/-- At its leftmost place the first phrase of the table that occurs can be read around a text
without brackets. -/
def FirstPhraseClean (message : List Char) : Prop :=
  ∀ k text, firstPhrase? wanPhrases message = some k → k.Leftmost message text →
    ∃ w, k.Reads w text ∧ '[' ∉ w ∧ ']' ∉ w

/-- The extraction is sound for the messages whose first phrase is clean, and only for them. -/
theorem sound_extraction_iff (message : String) :
    SoundExtraction u message ↔ FirstPhraseClean message.toList := by
  rcases wanEvent?_cases message.toList with ⟨k, w, hevent, hfirst, hfound⟩ | ⟨hevent, hfirst⟩
  · have hcategory := categorizeMessage_of_wanEvent u hevent
    obtain ⟨text, hleft, hreads, hleast⟩ := hfound
    constructor
    · intro hsound k' text' hfirst' hleft'
      obtain rfl : k = k' := Option.some.inj (hfirst.symm.trans hfirst')
      obtain rfl : text = text' := hleft.unique hleft'
      rw [SoundExtraction, hcategory] at hsound
      obtain ⟨k', -, w', hmetadata, hopen, hclose, -⟩ := hsound rfl
      have hname : w = w' := by
        have hget := congrArg (·.get? "wan_interface") hmetadata
        simp only [get?_wanMetadata_interface, Option.some.injEq] at hget
        exact String.ofList_injective hget
      subst hname
      exact ⟨w, hreads, hopen, hclose⟩
    · intro hclean _
      rw [hcategory]
      obtain ⟨w', hreads', hopen, hclose⟩ := hclean k text hfirst hleft
      have hinitial : w <+: w' := hreads.prefix_of_length_le hreads' (hleast w' hreads')
      refine ⟨k, List.mem_of_find?_eq_some hfirst, w, rfl, fun h ↦ hopen (hinitial.subset h),
        fun h ↦ hclose (hinitial.subset h), ?_⟩
      exact hleft.infix_of_reads hreads
  · constructor
    · intro _ k text hfirst'
      rw [hfirst] at hfirst'
      cases hfirst'
    · intro _ hwan
      rw [categorizeMessage, hevent] at hwan
      exact absurd hwan (keywordCategory_ne_wan u _)

/-- Two events in one message are reported as a third one. -/
theorem two_events_not_sound :
    ¬SoundExtraction .ascii
        "Backup [WAN2] was up. The physical connection status of [WAN1] was down." ∧
      (categorizeMessage .ascii
        "Backup [WAN2] was up. The physical connection status of [WAN1] was down.").2.get?
          "wan_event_type" = some "failover_deactivated" := by
  have hcategory : categorizeMessage .ascii
      "Backup [WAN2] was up. The physical connection status of [WAN1] was down." =
        ("wan", wanMetadata "failover_deactivated"
          "WAN2] was up. The physical connection status of [WAN1") := by decide
  rw [SoundExtraction, hcategory]
  refine ⟨fun hsound ↦ ?_, get?_wanMetadata_type _ _⟩
  obtain ⟨k, -, w, hmetadata, -, hclose, -⟩ := hsound rfl
  have hname := congrArg (·.get? "wan_interface") hmetadata
  simp only [get?_wanMetadata_interface, Option.some.injEq] at hname
  rw [← String.toList_ofList (l := w), ← hname] at hclose
  exact hclose (by decide)

/-! ## Completeness -/

theorem head_of_wanPhrases : ∀ k ∈ wanPhrases, ∀ k' ∈ wanPhrases,
    k.head ≠ k'.head → k.head.head? ≠ k'.head.head? := by decide

theorem tail_of_wanPhrases : ∀ k ∈ wanPhrases, ∀ tail ∈ k.tails,
    tail.head? = some ']' ∧ ']' ∉ tail.tail := by decide

theorem head_ne_nil_of_wanPhrases : ∀ k ∈ wanPhrases, k.head ≠ [] := by decide

theorem tails_apart : ∀ k ∈ wanPhrases, ∀ k' ∈ wanPhrases, k.head = k'.head → k ≠ k' →
    ∀ tail ∈ k.tails, ∀ tail' ∈ k'.tails, ¬tail <+: tail' ∧ ¬tail' <+: tail := by decide

/-- The text of an event: a phrase around the name of an interface. -/
structure WanEventText (message : List Char) (k : WanPhrase) (w : List Char) where
  before : List Char
  tail : List Char
  after : List Char
  mem_phrases : k ∈ wanPhrases
  mem_tails : tail ∈ k.tails
  message_eq : message = before ++ (k.head ++ (w ++ (tail ++ after)))
  block_name : Block dot w
  name_bracket : ']' ∉ w
  after_bracket : ']' ∉ after
  only_head : ∀ k' ∈ wanPhrases, ∀ x y, message = x ++ (k'.head ++ y) → x = before

variable {message : List Char} {k k' : WanPhrase} {w w' : List Char}

/-- No other phrase, and the phrase around no other text, occurs in the text of an event. -/
theorem WanEventText.eq_of_reads (t : WanEventText message k w) (hk' : k' ∈ wanPhrases)
    {x text : List Char} (hmessage : message = x ++ text) (hreads : k'.Reads w' text) :
    k' = k ∧ w' = w := by
  obtain ⟨-, tail', htail', rest, rfl⟩ := hreads
  obtain rfl := t.only_head k' hk' x _ hmessage
  have hphrases : k.head ++ (w ++ (t.tail ++ t.after)) = k'.head ++ (w' ++ (tail' ++ rest)) :=
    List.append_cancel_left (t.message_eq.symm.trans hmessage)
  have hheads : k.head = k'.head := by
    by_contra hne
    refine head_of_wanPhrases k t.mem_phrases k' hk' hne ?_
    have hhead := congrArg List.head? hphrases
    rwa [List.head?_append_of_ne_nil _ (head_ne_nil_of_wanPhrases k t.mem_phrases),
      List.head?_append_of_ne_nil _ (head_ne_nil_of_wanPhrases k' hk')] at hhead
  rw [hheads] at hphrases
  obtain ⟨hopen, hclosed⟩ := tail_of_wanPhrases k t.mem_phrases t.tail t.mem_tails
  obtain ⟨close, hclose⟩ := List.head?_eq_some_iff.mp hopen
  obtain ⟨close', hclose'⟩ := List.head?_eq_some_iff.mp
    (tail_of_wanPhrases k' hk' tail' htail').1
  -- the bracket of the tail is the only one after the head
  have hafter : ']' ∉ close ++ t.after := by
    rw [hclose, List.tail_cons] at hclosed
    simp only [List.mem_append, not_or]
    exact ⟨hclosed, t.after_bracket⟩
  have htexts : w ++ (t.tail ++ t.after) = w' ++ (tail' ++ rest) :=
    List.append_cancel_left hphrases
  rw [hclose, hclose', List.cons_append, List.cons_append] at htexts
  obtain rfl : w = w' := ((List.append_cons_inj_of_notMem t.name_bracket hafter).mp htexts).1
  refine ⟨?_, rfl⟩
  by_contra hne
  obtain ⟨hnot, hnot'⟩ := tails_apart k t.mem_phrases k' hk' hheads (Ne.symm hne) t.tail
    t.mem_tails tail' htail'
  have hinitial : tail' <+: t.tail ++ t.after := by
    rw [List.append_cancel_left (List.append_cancel_left hphrases)]
    exact List.prefix_append _ _
  exact (List.prefix_or_prefix_of_prefix (List.prefix_append t.tail t.after) hinitial).elim hnot
    hnot'

theorem WanEventText.wanEvent?_eq (t : WanEventText message k w) :
    wanEvent? message = some (k.eventType, w) := by
  rcases wanEvent?_cases message with ⟨k', w', hevent, hfirst, hfound⟩ | ⟨-, hnone⟩
  · obtain ⟨text, ⟨-, x, hmessage, -⟩, hreads, -⟩ := hfound
    obtain ⟨rfl, rfl⟩ := t.eq_of_reads (List.mem_of_find?_eq_some hfirst) hmessage hreads
    exact hevent
  · have hoccurs : k.Occurs message :=
      ⟨t.before, _, w, t.message_eq, t.block_name, t.tail, t.mem_tails, t.after, rfl⟩
    have hnot := List.find?_eq_none.mp hnone k t.mem_phrases
    exact absurd hoccurs (by simpa using hnot)

/-! ## The alerts -/

/-- The severity of the alert for an event, if there is an alert. -/
def alertSeverity? (eventType : String) : Option AlertSeverity :=
  if eventType = "failover_activated" ∨ eventType = "failover_deactivated" then some .critical
  else if eventType = "link_down" then some .warning
  else none

/-- There is one alert, which names `w`, or none. -/
def AlertsNaming (severity? : Option AlertSeverity) (w : List Char) (alerts : List AlertEvent) :
    Prop :=
  match severity? with
  | none => alerts = []
  | some severity => ∃ alert, alerts = [alert] ∧ alert.severity = severity ∧
      w <:+: alert.title.toList ∧ w <:+: alert.message.toList

theorem infix_append (before after : String) (w : List Char) :
    w <:+: (before ++ String.ofList w ++ after).toList :=
  ⟨before.toList, after.toList, by simp⟩

/-- The last line of an alert is its detail. -/
theorem infix_message (engine : AlertEngine) (now : ℤ) (severity : AlertSeverity)
    (title : String) {detail : String} (h : w <:+: detail.toList) :
    w <:+: (engine.wanSyslogAlert now severity title detail).message.toList := by
  have hlast : (engine.wanSyslogAlert now severity title detail).message =
      "\n".intercalate (engine.routerLines now) ++ "\n" ++ detail := by
    have hlines : engine.routerLines now ≠ [] := List.cons_ne_nil _ _
    rw [AlertEngine.wanSyslogAlert, String.intercalate_append_of_ne_nil hlines
      (List.cons_ne_nil detail []), String.intercalate_singleton]
  rw [hlast, String.toList_append]
  exact h.trans (List.suffix_append _ _).isInfix

theorem alertsNaming_wanSyslogAlert (engine : AlertEngine) (now : ℤ) (severity : AlertSeverity)
    {title detail : String} (htitle : w <:+: title.toList) (hdetail : w <:+: detail.toList) :
    AlertsNaming (some severity) w [engine.wanSyslogAlert now severity title detail] :=
  ⟨_, rfl, rfl, htitle, infix_message engine now severity title hdetail⟩

theorem alertsNaming_processSyslogEvent (engine : AlertEngine) (now : ℤ) {event : SyslogEvent}
    (hk : k ∈ wanPhrases) (hcategory : event.category = "wan")
    (hmetadata : event.metadata = wanMetadata k.eventType (String.ofList w)) :
    AlertsNaming (alertSeverity? k.eventType) w (engine.processSyslogEvent now event) := by
  have hprocess : engine.processSyslogEvent now event = engine.processWanSyslog now event :=
    if_pos hcategory
  rw [hprocess, AlertEngine.processWanSyslog, hmetadata, get?_wanMetadata_type,
    get?_wanMetadata_interface, Option.getD_some, Option.getD_some]
  simp only [wanPhrases, List.mem_cons, List.not_mem_nil, or_false] at hk
  rcases hk with rfl | rfl | rfl | rfl
  · exact alertsNaming_wanSyslogAlert engine now _ (infix_append _ _ w) (infix_append _ _ w)
  · exact alertsNaming_wanSyslogAlert engine now _ (infix_append _ _ w) (infix_append _ _ w)
  · refine alertsNaming_wanSyslogAlert engine now _ ?_ ?_
    · exact ⟨[], " physical link DOWN".toList, by simp⟩
    · exact ⟨"Physical connection lost on ".toList, [], by simp⟩
  · rfl

/-- The text of a WAN event is categorised as that event of that interface, and the engine
raises its alert, if it has one. -/
theorem wan_event_reported {message : String} (t : WanEventText message.toList k w) :
    categorizeMessage u message = ("wan", wanMetadata k.eventType (String.ofList w)) ∧
      ∀ (engine : AlertEngine) (now : ℤ) (event : SyslogEvent),
        (event.category, event.metadata) = categorizeMessage u message →
        AlertsNaming (alertSeverity? k.eventType) w (engine.processSyslogEvent now event) := by
  have hcategory := categorizeMessage_of_wanEvent u t.wanEvent?_eq
  refine ⟨hcategory, fun engine now event hevent ↦ ?_⟩
  obtain ⟨hwan, hmetadata⟩ := Prod.mk.inj (hevent.trans hcategory)
  exact alertsNaming_processSyslogEvent engine now t.mem_phrases hwan hmetadata

/-- A failover, in a message with a keyword of another category. -/
def failoverText : WanEventText "user: Backup [W2] took effect".toList
    ⟨"Backup [".toList, ["] took effect".toList], "failover_activated"⟩ "W2".toList where
  before := "user: ".toList
  tail := "] took effect".toList
  after := []
  mem_phrases := by decide
  mem_tails := by decide
  message_eq := by decide
  block_name := by decide
  name_bracket := by decide
  after_bracket := by decide
  only_head := by
    intro k' hk' x y hmessage
    have hplaces : ∀ k ∈ wanPhrases, ∀ n ∈ List.range 30,
        k.head <+: "user: Backup [W2] took effect".toList.drop n → n = 6 := by decide
    have hlength : "user: Backup [W2] took effect".toList.length = 29 := by decide
    have hdrop : k'.head <+: "user: Backup [W2] took effect".toList.drop x.length := by
      rw [hmessage, List.drop_left]
      exact List.prefix_append _ _
    have hle : x.length ≤ 29 := by
      rw [← hlength, hmessage, List.length_append]
      omega
    have hx := hplaces k' hk' x.length (List.mem_range.mpr (by omega)) hdrop
    have htake : "user: Backup [W2] took effect".toList.take x.length = x := by
      rw [hmessage, List.take_left]
    rw [hx] at htake
    exact htake.symm.trans (by decide)

theorem failoverText_reported :
    categorizeMessage .ascii "user: Backup [W2] took effect" =
        ("wan", wanMetadata "failover_activated" (String.ofList "W2".toList)) ∧
      ∀ (engine : AlertEngine) (now : ℤ) (event : SyslogEvent),
        (event.category, event.metadata) =
          categorizeMessage .ascii "user: Backup [W2] took effect" →
        AlertsNaming (alertSeverity? "failover_activated") "W2".toList
          (engine.processSyslogEvent now event) :=
  wan_event_reported .ascii failoverText

end WanRouter
