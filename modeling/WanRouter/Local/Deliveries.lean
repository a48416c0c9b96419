import WanRouter.Local.Iterations

/-!
# Alerts handed to Telegram

The poll loop ignores what `send_alert` returns, and the engine has recorded the
new status before the send.  So an alert is handed over exactly once for every
change of a status, delivered or not.
-/

namespace WanRouter

open OrderedDict EdgeDetector SNMPPoller

/-- A predicate that singles out one value filters a list without duplicates to it. -/
theorem filter_of_unique {α : Type*} {l : List α} (hl : l.Nodup) {a : α} (ha : a ∈ l)
    (p : α → Prop) [DecidablePred p] (h : ∀ x, p x → x = a) :
    l.filter p = if p a then [a] else [] := by
  by_cases hpa : p a
  · rw [if_pos hpa]
    apply List.perm_singleton.mp
    rw [List.perm_ext_iff_of_nodup (hl.filter _) (List.nodup_singleton a)]
    intro x
    simp only [List.mem_filter, decide_eq_true_eq, List.mem_singleton]
    exact ⟨fun hx ↦ h x hx.2, fun hx ↦ hx ▸ ⟨ha, hpa⟩⟩
  · rw [if_neg hpa, List.filter_eq_nil_iff]
    intro x _ hx
    have hp := of_decide_eq_true hx
    exact hpa (h x hp ▸ hp)

namespace IterationRecord

/-- The status of an interface in the poll of the iteration. -/
def status (r : IterationRecord) (name : String) : InterfaceStatus :=
  ((r.polled.get? name).map WANState.status).getD .unknown

def titles (r : IterationRecord) : List String := r.sends.map fun p ↦ p.1.title

/-- The DOWN alerts handed over for an interface, with what the sends gave. -/
def downs (name : String) (r : IterationRecord) : List (AlertEvent × SendResult) :=
  r.sends.filter fun p ↦ p.1.title = name ++ " DOWN"

end IterationRecord

/-- The status processed last for an interface; UP before the first. -/
def previousStatus (rs : List IterationRecord) (name : String) : InterfaceStatus :=
  ((rs.filter fun r ↦ name ∈ r.processed).getLast?.map fun r ↦ r.status name).getD .up

theorem previousStatus_concat (rs : List IterationRecord) (r : IterationRecord)
    (name : String) :
    previousStatus (rs ++ [r]) name =
      if name ∈ r.processed then r.status name else previousStatus rs name := by
  by_cases h : name ∈ r.processed <;> simp [previousStatus, List.filter_append, h]

namespace LocalMonitor

/-- The iterations of the poll loop from one state to another. -/
inductive PollLoop (m : LocalMonitor) : List IterationRecord → LocalMonitor → Prop
  | start : PollLoop m [] m
  | iterate {rs : List IterationRecord} {m₁ m₂ : LocalMonitor} {r : IterationRecord}
      (hloop : PollLoop m rs m₁) (hiterates : Iterates m₁ r m₂) : PollLoop m (rs ++ [r]) m₂

variable {m m' : LocalMonitor} {rs : List IterationRecord}

theorem PollLoop.iteration_at (h : PollLoop m rs m') {pre post : List IterationRecord}
    {r : IterationRecord} (hsplit : rs = pre ++ r :: post) :
    ∃ m₁ m₂, PollLoop m pre m₁ ∧ Iterates m₁ r m₂ := by
  induction h generalizing post with
  | start => simp at hsplit
  | @iterate rs m₁ m₂ last hloop hiterates ih =>
      rcases Machine.concat_eq_append_cons hsplit with ⟨-, rfl, rfl⟩ | ⟨post', -, hbefore⟩
      · exact ⟨m₁, m₂, hloop, hiterates⟩
      · exact ih hbefore

/-- The engine's level of every WAN is the status processed last for it. -/
structure LevelsFollow (router : RouterConfig) (rs : List IterationRecord) (m : LocalMonitor) :
    Prop where
  gateways : m.poller.wanGateways = router.wanGateways
  level : ∀ name, m.alertEngine.level name = previousStatus rs name

/-- An iteration processes the WANs in their order and hands over one alert for each
processed WAN whose status changed.  Only its last send can raise, and that is the
send of the last WAN processed: it drops the WANs after it. -/
structure HandsOver (router : RouterConfig) (pre : List IterationRecord)
    (r : IterationRecord) : Prop where
  processed : r.processed <+: router.wanGateways.keys
  complete : r.processed = router.wanGateways.keys ∨ ∃ p ∈ r.sends, p.2 = .raised
  raised : ∀ before p after, r.sends = before ++ p :: after → p.2 = .raised →
    after = [] ∧ ∃ name ∈ r.processed.getLast?,
      p.1.title = AlertEngine.wanTitle name (r.status name)
  titles : r.titles = (r.processed.filter fun name ↦
    r.status name ≠ previousStatus pre name).map fun name ↦
      AlertEngine.wanTitle name (r.status name)

/-- The round of an iteration visits what the iteration processed. -/
theorem Iterates.visits {r : IterationRecord} (h : Iterates m r m') :
    ∃ rd : Round, rd.order = r.processed ∧ rd.Visits m.poller.wanGateways ∧
      m'.monitoring = (m.monitoring.round rd).1 ∧
      r.sends.map Prod.fst = (m.monitoring.round rd).2 ∧
      ∀ name ∈ r.processed,
        r.status name = indicator .up .down (m.monitoring.selected rd) name := by
  obtain ⟨rd, horder, hmonitoring, halerts, hpolled, hprefix, -⟩ := h.round
  have hsubset : ∀ name ∈ r.processed, name ∈ m.poller.wanGateways.keys :=
    fun _ hname ↦ hprefix.subset hname
  have hvisits : rd.Visits m.poller.wanGateways :=
    ⟨horder ▸ m.poller.wanGateways.keys_nodup.sublist hprefix.sublist, horder ▸ hsubset⟩
  refine ⟨rd, horder, hvisits, hmonitoring, halerts, ?_⟩
  intro name hname
  rw [IterationRecord.status, hpolled, m.poller.get?_states rd.input (hsubset name hname)]
  rfl

theorem LevelsFollow.iterate {router : RouterConfig} {r : IterationRecord}
    (h : LevelsFollow router rs m) (hiterates : Iterates m r m') :
    LevelsFollow router (rs ++ [r]) m' ∧ HandsOver router rs r := by
  obtain ⟨-, -, -, -, -, hprefix, hcomplete⟩ := hiterates.round
  obtain ⟨rd, horder, hvisits, hmonitoring, halerts, hstatus⟩ := hiterates.visits
  constructor
  · constructor
    · have hgateways := congrArg (fun n : Monitoring ↦ n.poller.wanGateways) hmonitoring
      exact hgateways.trans h.gateways
    · intro name
      have hlevel : m'.alertEngine.level name =
          (m.monitoring.round rd).1.engine.level name :=
        congrArg (fun n : Monitoring ↦ n.engine.level name) hmonitoring
      rw [hlevel, previousStatus_concat]
      by_cases hname : name ∈ r.processed
      · rw [if_pos hname, hstatus name hname]
        exact m.monitoring.round_level hvisits (horder.symm ▸ hname)
      · rw [if_neg hname, ← h.level name]
        exact (m.monitoring.agreesAt_round hvisits (horder.symm ▸ hname)).level_eq
  · refine ⟨h.gateways ▸ hprefix, h.gateways ▸ hcomplete, ?_, ?_⟩
    · intro before p after hsplit hraised
      obtain ⟨hafter, name, hname, state, hstate, htitle⟩ :=
        hiterates.raises_last hsplit hraised
      rw [Option.mem_def] at hstate
      refine ⟨hafter, name, hname, ?_⟩
      rw [htitle, IterationRecord.status, hstate]
      rfl
    have htitles : r.titles = (r.sends.map Prod.fst).map AlertEvent.title := by
      rw [List.map_map]
      rfl
    rw [htitles, halerts, m.monitoring.titles_round hvisits, horder]
    have hfilter : (r.processed.filter fun name ↦
        ¬indicator .up .down (m.monitoring.selected rd) name =
          m.monitoring.engine.level name) =
        r.processed.filter fun name ↦ r.status name ≠ previousStatus rs name := by
      apply List.filter_congr
      intro name hname
      rw [hstatus name hname, ← h.level name]
      rfl
    rw [hfilter]
    apply List.map_congr_left
    intro name hname
    rw [hstatus name (List.mem_of_mem_filter hname)]

theorem PollLoop.levelsFollow {config : LocalConfig} {telegram : TelegramNotifier}
    (h : PollLoop (init config telegram) rs m) : LevelsFollow config.router rs m := by
  induction h with
  | start => exact ⟨rfl, fun _ ↦ rfl⟩
  | iterate hloop hiterates ih => exact (ih.iterate hiterates).1

/-- The DOWN alerts of one iteration for one WAN: one at a change to DOWN. -/
theorem HandsOver.map_title_downs {router : RouterConfig} {r : IterationRecord}
    (h : HandsOver router rs r) {name : String} (hname : name ∈ r.processed) :
    (r.downs name).map (fun p ↦ p.1.title) =
      if r.status name = .down ∧ previousStatus rs name ≠ .down then [name ++ " DOWN"]
      else [] := by
  have hdowns : (r.downs name).map (fun p ↦ p.1.title) =
      r.titles.filter fun title ↦ title = name ++ " DOWN" := by
    rw [IterationRecord.titles, List.filter_map]
    rfl
  have hnodup := router.wanGateways.keys_nodup.sublist h.processed.sublist
  have hunique := filter_of_unique hnodup hname
    (fun n ↦ AlertEngine.wanTitle n (r.status n) = name ++ " DOWN" ∧
      r.status n ≠ previousStatus rs n)
    fun n hn ↦ ((AlertEngine.wanTitle_eq_down_iff n name _).mp hn.1).1
  have hchange : (AlertEngine.wanTitle name (r.status name) = name ++ " DOWN" ∧
      r.status name ≠ previousStatus rs name) ↔
      r.status name = .down ∧ previousStatus rs name ≠ .down := by
    rw [AlertEngine.wanTitle_eq_down_iff]
    constructor
    · rintro ⟨⟨-, hdown⟩, hne⟩
      exact ⟨hdown, fun heq ↦ hne (hdown.trans heq.symm)⟩
    · rintro ⟨hdown, hne⟩
      exact ⟨⟨rfl, hdown⟩, fun heq ↦ hne (heq ▸ hdown)⟩
  rw [hdowns, h.titles, List.filter_map, List.filter_filter]
  have hfilter : (r.processed.filter fun n ↦
      ((fun title ↦ decide (title = name ++ " DOWN")) ∘
        fun n ↦ AlertEngine.wanTitle n (r.status n)) n &&
      decide (r.status n ≠ previousStatus rs n)) =
      if r.status name = .down ∧ previousStatus rs name ≠ .down then [name] else [] := by
    rw [← if_congr hchange rfl rfl, ← hunique]
    simp only [Function.comp_apply, Bool.decide_and]
  rw [hfilter]
  by_cases hdown : r.status name = .down ∧ previousStatus rs name ≠ .down
  · rw [if_pos hdown, if_pos hdown, List.map_singleton, hdown.1]
    rfl
  · rw [if_neg hdown, if_neg hdown, List.map_nil]

theorem HandsOver.downs_of_not_mem {router : RouterConfig} {r : IterationRecord}
    (h : HandsOver router rs r) {name : String} (hname : name ∉ r.processed) :
    r.downs name = [] := by
  rw [IterationRecord.downs, List.filter_eq_nil_iff]
  intro p hp htitle
  have hmem : p.1.title ∈ r.titles := List.mem_map.mpr ⟨p, hp, rfl⟩
  rw [h.titles, of_decide_eq_true htitle] at hmem
  obtain ⟨n, hn, heq⟩ := List.mem_map.mp hmem
  rw [((AlertEngine.wanTitle_eq_down_iff n name _).mp heq).1] at hn
  exact hname (List.mem_of_mem_filter hn)

/-- Iterations that process an interface as DOWN only, after it was UP, hand over one
DOWN alert for it if they process it at all; after it was DOWN, none. -/
theorem map_title_downs_span {router : RouterConfig} {name : String}
    {pre span : List IterationRecord}
    (hover : ∀ before r after, span = before ++ r :: after →
      HandsOver router (pre ++ before) r)
    (hdown : ∀ r ∈ span, name ∈ r.processed → r.status name = .down) :
    (span.flatMap (IterationRecord.downs name)).map (fun p ↦ p.1.title) =
      if previousStatus pre name ≠ .down ∧ ∃ r ∈ span, name ∈ r.processed then
        [name ++ " DOWN"]
      else [] := by
  induction span generalizing pre with
  | nil => simp
  | cons r span ih =>
      have hr : HandsOver router pre r := by simpa using hover [] r span rfl
      have hover' : ∀ before s after, span = before ++ s :: after →
          HandsOver router (pre ++ [r] ++ before) s := by
        intro before s after hsplit
        rw [List.append_assoc]
        exact hover (r :: before) s after (by rw [hsplit]; rfl)
      have hrest := ih hover' fun s hs ↦ hdown s (by simp [hs])
      rw [List.flatMap_cons, List.map_append, hrest, previousStatus_concat]
      by_cases hname : name ∈ r.processed
      · rw [hr.map_title_downs hname, hdown r (by simp) hname]
        by_cases hprevious : previousStatus pre name = .down <;> simp [hname, hprevious]
      · simp [hr.downs_of_not_mem hname, hname]

/-- An alert is handed over exactly where the status processed for a WAN changes,
whatever the sends give; so a WAN that is DOWN has had one DOWN alert handed over
since it was last UP. -/
theorem alert_handed_once (config : LocalConfig) (telegram : TelegramNotifier)
    {rs : List IterationRecord} {m : LocalMonitor}
    (hloop : PollLoop (init config telegram) rs m) :
    (∀ pre r post, rs = pre ++ r :: post → HandsOver config.router pre r) ∧
    ∀ pre span name, rs = pre ++ span → (∃ r ∈ span, name ∈ r.processed) →
      previousStatus pre name = .up →
      (∀ r ∈ span, name ∈ r.processed → r.status name = .down) →
      ∃ alert result, span.flatMap (IterationRecord.downs name) = [(alert, result)] ∧
        alert.title = name ++ " DOWN" := by
  have hover : ∀ pre r post, rs = pre ++ r :: post → HandsOver config.router pre r := by
    intro pre r post hsplit
    obtain ⟨m₁, m₂, hbefore, hiterates⟩ := hloop.iteration_at hsplit
    exact (hbefore.levelsFollow.iterate hiterates).2
  refine ⟨hover, ?_⟩
  rintro pre span name rfl hprocessed hup hdown
  have hspan := map_title_downs_span
    (fun before r after hsplit ↦ hover (pre ++ before) r after (by rw [hsplit]; simp)) hdown
  rw [if_pos ⟨by simp [hup], hprocessed⟩] at hspan
  obtain ⟨⟨alert, result⟩, hdowns, htitle⟩ := List.map_eq_singleton_iff.mp hspan
  exact ⟨alert, result, hdowns, htitle⟩

/-- An iteration whose poll is not answered and whose two sends both fail. -/
def failedIteration : List MonitorEvent :=
  [.startPoll, .polled Round.lost.input, .process 0, .sendDone .telegramError, .process 0,
    .sendDone .telegramError, .finish]

theorem failedIteration_handed_once :
    ∃ r m alert result, PollLoop (init { router := dualWan } {}) [r] m ∧
      r.sends.map Prod.snd = [.returned false, .returned false] ∧
      r.downs "WAN1" = [(alert, result)] := by
  obtain ⟨r, m, hiterates, hprocessed, hdown, hsends⟩ : ∃ r m,
      Iterates (init { router := dualWan } {}) r m ∧ r.processed = ["WAN1", "WAN2"] ∧
        r.status "WAN1" = .down ∧ r.sends.map Prod.snd = [.returned false, .returned false] :=
    ⟨⟨_, _, _⟩, _, ⟨failedIteration, _, rfl, rfl, rfl, rfl, rfl, rfl, rfl⟩, rfl, rfl, rfl⟩
  have hloop : PollLoop (init { router := dualWan } {}) [r] m := .iterate .start hiterates
  obtain ⟨alert, result, h, -⟩ := (alert_handed_once { router := dualWan } {} hloop).2
    [] [r] "WAN1" rfl (by simp [hprocessed]) rfl (by simpa using fun _ ↦ hdown)
  exact ⟨r, m, alert, result, hloop, hsends, by simpa using h⟩

/-- The alerts of the failed sends are not handed over again by the next iteration,
whose poll reports the same statuses. -/
theorem failed_send_not_repeated :
    ∃ m₁ m₂ out₁ out₂,
      Machine.run step (init { router := dualWan } {}) failedIteration = some (m₁, out₁) ∧
      Machine.run step m₁
        [.startPoll, .polled Round.lost.input, .process 0, .process 0, .finish] =
          some (m₂, out₂) ∧
      (sends out₁).map (fun p ↦ (p.1.title, p.2)) =
        [("WAN1 DOWN", .returned false), ("WAN2 DOWN", .returned false)] ∧
      ((lastPolled out₂).get? "WAN1").map WANState.status = some .down ∧ sends out₂ = [] :=
  ⟨_, _, _, _, rfl, rfl, rfl, rfl, rfl⟩

end LocalMonitor

end WanRouter
