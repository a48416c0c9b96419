import WanRouter.Local.Failover
import WanRouter.Local.PollHistory

/-!
# The durations in the alerts

After any run of rounds the poller and the engine hold the same state of every WAN,
and its `since` is the time of the poll that opened the current status period.  So
the duration in an alert runs from that poll.
-/

namespace WanRouter

open OrderedDict EdgeDetector Periods SNMPPoller

/-- Every text ends with the letter of a unit. -/
theorem formatDuration_ne_unknown (seconds : ℤ) : formatDuration seconds ≠ "unknown" := by
  intro h
  have hlast := congrArg (fun s ↦ s.toList.getLast?) h
  revert hlast
  unfold formatDuration
  simp only [List.nil_append]
  split_ifs <;>
    simp [String.intercalate_cons_cons, String.toList_append, List.getLast?_append,
      List.getLast?_cons]

namespace Monitoring

variable {router : RouterConfig} {rs : List Round} {r : Round} {name : String}

/-- The status of a WAN in the poll of a round, which depends on the answer only. -/
def polledStatus (router : RouterConfig) (name : String) (x : Round) : InterfaceStatus :=
  ((init router).poller.wanState x.input name).status

theorem run_poller_wanGateways (router : RouterConfig) (rs : List Round) :
    (Mealy.run round (init router) rs).poller.wanGateways = router.wanGateways :=
  run_wanGateways (init router) rs

theorem wanState_status_run (router : RouterConfig) (rs : List Round) (x : Round)
    (name : String) :
    ((Mealy.run round (init router) rs).poller.wanState x.input name).status =
      polledStatus router name x := by
  have hgateways : (Mealy.run round (init router) rs).poller.wanGateways =
      (init router).poller.wanGateways := run_wanGateways (init router) rs
  rw [polledStatus, wanState_status, wanState_status, activeWan_congr hgateways]

/-- The alerts of a round that comes after the rounds `pre`. -/
def alertsAt (router : RouterConfig) (pre : List Round) (q : Round) : List AlertEvent :=
  ((Mealy.run round (init router) pre).round q).2

def EmitsDown (router : RouterConfig) (pre : List Round) (q : Round) (name : String) : Prop :=
  ∃ alert ∈ alertsAt router pre q, alert.title = name ++ " DOWN"

/-- After the rounds `rs` both components hold this state, which belongs to the period
that the round `q` opened. -/
structure Records (router : RouterConfig) (rs : List Round) (name : String)
    (state : WANState) (pre : List Round) (q : Round) (post : List Round) : Prop where
  period : LastPeriod (polledStatus router name) rs pre q post
  polled : (Mealy.run round (init router) rs).poller.lastStates.get? name = some state
  processed : (Mealy.run round (init router) rs).engine.previousWan.get? name = some state
  level : (Mealy.run round (init router) rs).engine.level name = state.status
  status : state.status = polledStatus router name q
  since : state.since = q.input.now

/-- What a round leaves about a WAN: the state of its poll. -/
theorem run_concat (rs : List Round) (hr : r.Covers router.wanGateways)
    (hname : name ∈ router.wanGateways.keys) :
    let before := Mealy.run round (init router) rs
    let after := Mealy.run round (init router) (rs ++ [r])
    after.poller.lastStates.get? name = some (before.poller.wanState r.input name) ∧
      after.engine.previousWan.get? name = some (before.poller.wanState r.input name) ∧
      after.engine.level name = polledStatus router name r := by
  have hgateways := run_poller_wanGateways router rs
  have hcovers : r.Covers (Mealy.run round (init router) rs).poller.wanGateways :=
    hgateways.symm ▸ hr
  have horder : name ∈ r.order := hr.mem_iff.mpr hname
  simp only [Mealy.run_append, Mealy.run_cons, Mealy.run_nil]
  refine ⟨?_, ?_, ?_⟩
  · exact get?_states _ _ (hgateways.symm ▸ hname)
  · rw [(agreesAt_round_of_mem _ hcovers.visits horder).previous]
    exact Dict.get?_set_self _ _ _
  · rw [round_level _ hcovers.visits horder, ← wanState_status_run router rs, wanState_status]
    rfl

theorem Records.next {state : WANState} {pre post : List Round} {q : Round}
    (h : Records router rs name state pre q post) (hr : r.Covers router.wanGateways)
    (hname : name ∈ router.wanGateways.keys) :
    ∃ state pre q post, Records router (rs ++ [r]) name state pre q post := by
  obtain ⟨hpolled, hprocessed, hlevel⟩ := run_concat rs hr hname
  have hstatus := wanState_status_run router rs r name
  have hsince : ((Mealy.run round (init router) rs).poller.wanState r.input name).since =
      if state.status = polledStatus router name r then state.since else r.input.now := by
    rw [← hstatus]
    simp only [wanState, carriedSince, h.polled]
  obtain ⟨pre', q', post', hperiod, hopened, hnow⟩ := h.period.mark (fun x ↦ x.input.now) r
  refine ⟨_, pre', q', post', hperiod, hpolled, hprocessed, hlevel.trans hstatus.symm,
    hstatus.trans hopened.symm, ?_⟩
  rw [hsince, hnow, h.status, h.since]
  simp only [eq_comm]

theorem exists_records (hcovers : ∀ x ∈ rs, x.Covers router.wanGateways)
    (hname : name ∈ router.wanGateways.keys) (hne : rs ≠ []) :
    ∃ state pre q post, Records router rs name state pre q post := by
  induction rs using List.reverseRecOn with
  | nil => exact absurd rfl hne
  | append_singleton rs r ih =>
      have hr := hcovers r (by simp)
      by_cases hfirst : rs = []
      · subst hfirst
        obtain ⟨hpolled, hprocessed, hlevel⟩ := run_concat [] hr hname
        have hstatus := wanState_status_run router [] r name
        exact ⟨_, [], r, [], LastPeriod.start (by simp), hpolled, hprocessed,
          hlevel.trans hstatus.symm, hstatus, rfl⟩
      · obtain ⟨state, pre, q, post, h⟩ := ih (fun x hx ↦ hcovers x (by simp [hx])) hfirst
        exact h.next hr hname

/-! ## Which rounds alert -/

theorem level_rounds (hcovers : ∀ x ∈ rs, x.Covers router.wanGateways)
    (hname : name ∈ router.wanGateways.keys) :
    (Mealy.run round (init router) rs).engine.level name =
      (rs.getLast?.map (polledStatus router name)).getD .up := by
  rcases List.eq_nil_or_concat rs with rfl | ⟨rs, r, rfl⟩
  · rfl
  · rw [List.concat_eq_append] at hcovers ⊢
    rw [(run_concat rs (hcovers r (by simp)) hname).2.2, List.getLast?_concat]
    rfl

theorem polledStatus_eq_indicator (rs : List Round) (r : Round) (name : String) :
    polledStatus router name r =
      indicator .up .down ((Mealy.run round (init router) rs).selected r) name := by
  rw [← wanState_status_run router rs, wanState_status, selected]

theorem polledStatus_ne_down_iff (r : Round) (name : String) :
    polledStatus router name r ≠ .down ↔ polledStatus router name r = .up := by
  rw [polledStatus_eq_indicator []]
  unfold indicator
  split_ifs <;> simp

/-- A round emits the DOWN alert of a WAN when it turns DOWN, from UP or at first. -/
theorem emitsDown_iff {pre : List Round} {q : Round}
    (hcovers : ∀ x ∈ pre ++ [q], x.Covers router.wanGateways)
    (hname : name ∈ router.wanGateways.keys) :
    EmitsDown router pre q name ↔
      polledStatus router name q = .down ∧
        ∀ x ∈ pre.getLast?, polledStatus router name x ≠ .down := by
  have hq := hcovers q (by simp)
  have hgateways := run_poller_wanGateways router pre
  have hvisits : q.Visits (Mealy.run round (init router) pre).poller.wanGateways :=
    hgateways.symm ▸ hq.visits
  have htitles := titles_round hvisits
  have hpre : ∀ x ∈ pre, x.Covers router.wanGateways := fun x hx ↦ hcovers x (by simp [hx])
  have hlevel := level_rounds hpre hname
  have hchange : (∀ x ∈ pre.getLast?, polledStatus router name x ≠ .down) ↔
      (Mealy.run round (init router) pre).engine.level name ≠ .down := by
    rw [hlevel]
    cases pre.getLast? <;> simp
  have hemits : EmitsDown router pre q name ↔
      name ++ " DOWN" ∈ (alertsAt router pre q).map AlertEvent.title := by
    rw [List.mem_map, EmitsDown]
  rw [hemits, alertsAt, htitles, hchange]
  simp only [← polledStatus_eq_indicator, List.mem_map, List.mem_filter, decide_eq_true_eq,
    AlertEngine.wanTitle_eq_down_iff]
  constructor
  · rintro ⟨n, ⟨-, hne⟩, rfl, hdown⟩
    exact ⟨hdown, fun h ↦ hne (hdown.trans h.symm)⟩
  · rintro ⟨hdown, hne⟩
    exact ⟨name, ⟨hq.mem_iff.mpr hname, fun h ↦ hne (h.symm.trans hdown)⟩, rfl, hdown⟩

/-! ## The durations -/

/-- A RECOVERED alert with the time since the poll of the last round that emitted the
DOWN alert of this WAN. -/
def ReportsDowntime (router : RouterConfig) (rs : List Round) (r : Round) (name : String)
    (alert : AlertEvent) : Prop :=
  ∃ pre q mid downtime, rs = pre ++ q :: mid ∧ EmitsDown router pre q name ∧
    (∀ earlier x later, mid = earlier ++ x :: later →
      ¬EmitsDown router (pre ++ q :: earlier) x name) ∧
    0 ≤ r.clock name - q.input.now ∧
    downtime = formatDuration (totalSeconds (r.clock name - q.input.now)) ∧
    downtime ≠ "unknown" ∧
    alert = (Mealy.run round (init router) rs).engine.recoveredAlert (r.clock name)
      ((Mealy.run round (init router) rs).poller.wanState r.input name) downtime ∧
    alert.Reads (name ++ " RECOVERED") (headLines router (r.clock name) ++
      ["Downtime: " ++ downtime, "Restored as primary gateway"])

theorem ReportsDowntime.title {alert : AlertEvent}
    (h : ReportsDowntime router rs r name alert) : alert.title = name ++ " RECOVERED" := by
  obtain ⟨pre, q, mid, downtime, -, -, -, -, -, -, -, hreads⟩ := h
  exact hreads.title

/-- The title and the lines of a DOWN alert, among them how long the WAN was UP. -/
def ReadsDown (router : RouterConfig) (rs : List Round) (r : Round) (name : String)
    (uptime : String) (target : Option String) (alert : AlertEvent) : Prop :=
  alert.Reads (name ++ " DOWN")
    (linesAbove router (r.clock name) uptime ++ [AlertEngine.failoverLine target] ++
      linesBelow ((Mealy.run round (init router) rs).poller.wanState r.input name).linkUp)

theorem readsDown_downAlert (router : RouterConfig) (rs : List Round) (r : Round)
    (name uptime : String) (target : Option String) :
    ReadsDown router rs r name uptime target
      ((Mealy.run round (init router) rs).engine.downAlert (r.clock name)
        ((Mealy.run round (init router) rs).poller.wanState r.input name) uptime target) where
  title := rfl
  message := message_downAlert (routerLines_run router rs (r.clock name)) _ uptime target

theorem reads_recoveredAlert (router : RouterConfig) (rs : List Round) (r : Round)
    (name downtime : String) :
    ((Mealy.run round (init router) rs).engine.recoveredAlert (r.clock name)
      ((Mealy.run round (init router) rs).poller.wanState r.input name) downtime).Reads
        (name ++ " RECOVERED") (headLines router (r.clock name) ++
          ["Downtime: " ++ downtime, "Restored as primary gateway"]) where
  title := rfl
  message := by
    rw [← routerLines_run router rs]
    rfl

/-- A DOWN alert with the time since the first poll of the UP period that it ends. -/
def ReportsUptime (router : RouterConfig) (rs : List Round) (r : Round) (name : String)
    (alert : AlertEvent) : Prop :=
  ∃ pre q mid uptime target, rs = pre ++ q :: mid ∧
    (∀ x ∈ q :: mid, polledStatus router name x = .up) ∧
    (∀ x ∈ pre.getLast?, polledStatus router name x = .down) ∧
    0 ≤ r.clock name - q.input.now ∧
    uptime = formatDuration (totalSeconds (r.clock name - q.input.now)) ∧
    uptime ≠ "unknown" ∧
    alert = (Mealy.run round (init router) rs).engine.downAlert (r.clock name)
      ((Mealy.run round (init router) rs).poller.wanState r.input name) uptime target ∧
    ReadsDown router rs r name uptime target alert

/-- A DOWN alert whose previous state is unknown. -/
def ReportsUnknown (router : RouterConfig) (rs : List Round) (r : Round) (name : String)
    (alert : AlertEvent) : Prop :=
  ∃ target, alert = (Mealy.run round (init router) rs).engine.downAlert (r.clock name)
      ((Mealy.run round (init router) rs).poller.wanState r.input name) "unknown" target ∧
    ReadsDown router rs r name "unknown" target alert

theorem previousDuration_of_status {state : WANState} {status : InterfaceStatus} (now : ℤ)
    (h : state.status = status) :
    AlertEngine.previousDuration (some state) status now =
      formatDuration (totalSeconds (now - state.since)) := if_pos h

theorem Records.reportsDowntime {state : WANState} {pre mid : List Round} {q : Round}
    (h : Records router rs name state pre q mid)
    (hcovers : ∀ x ∈ rs, x.Covers router.wanGateways)
    (hname : name ∈ router.wanGateways.keys) (hdown : state.status = .down)
    (hup : polledStatus router name r = .up) (hnow : q.input.now ≤ r.clock name) :
    ReportsDowntime router rs r name ((Mealy.run round (init router) rs).alertFor r name) := by
  have hq : polledStatus router name q = .down := h.status ▸ hdown
  have hsplit := h.period.split
  have halert : (Mealy.run round (init router) rs).alertFor r name =
      (Mealy.run round (init router) rs).engine.recoveredAlert (r.clock name)
        ((Mealy.run round (init router) rs).poller.wanState r.input name)
        (formatDuration (totalSeconds (r.clock name - q.input.now))) := by
    have hstatus := (wanState_status_run router rs r name).trans hup
    rw [alertFor, AlertEngine.changeAlert, if_neg (by simp [hstatus])]
    change AlertEngine.recoveredAlert _ _ _ (AlertEngine.previousDuration
      ((Mealy.run round (init router) rs).engine.previousWan.get? name) _ _) = _
    rw [h.processed, previousDuration_of_status _ hdown, h.since]
  rw [halert]
  refine ⟨pre, q, mid, _, hsplit, ?_, ?_, Int.sub_nonneg.mpr hnow, rfl,
    formatDuration_ne_unknown _, rfl, reads_recoveredAlert router rs r name _⟩
  · have hopened : ∀ x ∈ pre ++ [q], x.Covers router.wanGateways := by
      intro x hx
      apply hcovers
      rw [hsplit, ← List.singleton_append, ← List.append_assoc]
      exact List.mem_append_left _ hx
    rw [emitsDown_iff hopened hname]
    exact ⟨hq, fun x hx ↦ hq ▸ h.period.fresh x hx⟩
  · rintro earlier x later rfl hemits
    rw [emitsDown_iff (fun y hy ↦ hcovers y (by rw [hsplit]; simp at hy ⊢; tauto)) hname]
      at hemits
    obtain ⟨y, hy⟩ := Option.isSome_iff_exists.mp
      (List.getLast?_isSome.mpr (List.cons_ne_nil q earlier))
    have hlast : y ∈ (pre ++ q :: earlier).getLast? := by
      rwa [List.getLast?_append_of_ne_nil _ (List.cons_ne_nil q earlier)]
    refine hemits.2 y hlast ?_
    rcases List.mem_cons.mp (List.mem_of_getLast? hy) with rfl | hmem
    · exact hq
    · rw [h.period.constant y (by simp [hmem]), hq]

theorem Records.reportsUptime {state : WANState} {pre mid : List Round} {q : Round}
    (h : Records router rs name state pre q mid) (hup : state.status = .up)
    (hdown : polledStatus router name r = .down) (hnow : q.input.now ≤ r.clock name) :
    ReportsUptime router rs r name ((Mealy.run round (init router) rs).alertFor r name) := by
  have hq : polledStatus router name q = .up := h.status ▸ hup
  let before := Mealy.run round (init router) rs
  let target := AlertEngine.failoverTarget (before.poller.wanState r.input name)
    (some (before.poller.states r.input))
  have halert : before.alertFor r name = before.engine.downAlert (r.clock name)
      (before.poller.wanState r.input name)
      (formatDuration (totalSeconds (r.clock name - q.input.now))) target := by
    have hstatus := (wanState_status_run router rs r name).trans hdown
    rw [alertFor, AlertEngine.changeAlert, if_pos hstatus]
    change AlertEngine.downAlert _ _ _ (AlertEngine.previousDuration
      ((Mealy.run round (init router) rs).engine.previousWan.get? name) _ _) _ = _
    rw [h.processed, previousDuration_of_status _ hup, h.since]
  rw [halert]
  refine ⟨pre, q, mid, _, target, h.period.split, ?_, ?_, Int.sub_nonneg.mpr hnow, rfl,
    formatDuration_ne_unknown _, rfl, readsDown_downAlert router rs r name _ target⟩
  · intro x hx
    rcases List.mem_cons.mp hx with rfl | hx
    · exact hq
    · rw [h.period.constant x hx, hq]
  · intro x hx
    by_contra hne
    exact h.period.fresh x hx (((polledStatus_ne_down_iff x name).mp hne).trans hq.symm)

/-- At the first round there is no previous state. -/
theorem reportsUnknown_first (router : RouterConfig) (r : Round) (name : String)
    (hdown : polledStatus router name r = .down) :
    ReportsUnknown router [] r name ((init router).alertFor r name) := by
  have hstatus := (wanState_status_run router [] r name).trans hdown
  rw [Mealy.run_nil] at hstatus
  rw [alertFor, AlertEngine.changeAlert, if_pos hstatus]
  exact ⟨_, rfl, readsDown_downAlert router [] r name "unknown" _⟩

/-- A change after the first round ends the period of the recorded state. -/
theorem Records.reports {state : WANState} {pre mid : List Round} {q : Round}
    (h : Records router rs name state pre q mid)
    (hcovers : ∀ x ∈ rs, x.Covers router.wanGateways)
    (hname : name ∈ router.wanGateways.keys)
    (hchange : polledStatus router name r ≠ state.status) (hnow : q.input.now ≤ r.clock name) :
    (polledStatus router name r = .up ∧
        ReportsDowntime router rs r name ((Mealy.run round (init router) rs).alertFor r name)) ∨
      (polledStatus router name r = .down ∧
        ReportsUptime router rs r name ((Mealy.run round (init router) rs).alertFor r name)) := by
  have hstatus : state.status ≠ .down ↔ state.status = .up := by
    rw [h.status, polledStatus_ne_down_iff]
  by_cases hdown : polledStatus router name r = .down
  · have hup : state.status = .up := hstatus.mp fun heq ↦ hchange (hdown.trans heq.symm)
    exact Or.inr ⟨hdown, h.reportsUptime hup hdown hnow⟩
  · have hup := (polledStatus_ne_down_iff r name).mp hdown
    have hstate : state.status = .down := by
      by_contra hne
      exact hchange (hup.trans (hstatus.mp hne).symm)
    exact Or.inl ⟨hup, h.reportsDowntime hcovers hname hstate hup hnow⟩

/-- Every alert of every round reports the true duration of the status that it ends;
only the first observation of a WAN has none. -/
theorem durations_exact (router : RouterConfig) {rs : List Round} {r : Round}
    (hcovers : ∀ x ∈ rs ++ [r], x.Covers router.wanGateways)
    (hclock : ((rs ++ [r]).map fun x ↦ x.input.now).Pairwise (· ≤ ·))
    (hafter : ∀ x ∈ rs ++ [r], ∀ name, x.input.now ≤ x.clock name)
    {alert : AlertEvent} (halert : alert ∈ alertsAt router rs r) :
    ∃ name ∈ router.wanGateways.keys,
      (polledStatus router name r = .up ∧ ReportsDowntime router rs r name alert) ∨
      (polledStatus router name r = .down ∧ rs = [] ∧ ReportsUnknown router rs r name alert) ∨
      (polledStatus router name r = .down ∧ rs ≠ [] ∧
        ReportsUptime router rs r name alert) := by
  have hrounds : ∀ x ∈ rs, x.Covers router.wanGateways := fun x hx ↦ hcovers x (by simp [hx])
  have hgateways := run_poller_wanGateways router rs
  have hr : r.Covers (Mealy.run round (init router) rs).poller.wanGateways :=
    hgateways.symm ▸ hcovers r (by simp)
  rw [alertsAt, round_alerts _ hr.visits] at halert
  obtain ⟨name, hmem, rfl⟩ := List.mem_map.mp halert
  obtain ⟨horder, hchange⟩ := List.mem_filter.mp hmem
  have hname : name ∈ router.wanGateways.keys := hgateways ▸ hr.mem_iff.mp horder
  rw [decide_eq_true_eq, ← polledStatus_eq_indicator] at hchange
  refine ⟨name, hname, ?_⟩
  by_cases hfirst : rs = []
  · subst hfirst
    have hdown : polledStatus router name r = .down := by
      by_contra hne
      exact hchange ((polledStatus_ne_down_iff r name).mp hne)
    exact Or.inr (Or.inl ⟨hdown, rfl, reportsUnknown_first router r name hdown⟩)
  · obtain ⟨state, pre, q, mid, h⟩ := exists_records hrounds hname hfirst
    have hnow : q.input.now ≤ r.clock name := by
      have hq : q ∈ rs := by simp [h.period.split]
      have hle : q.input.now ≤ r.input.now := by
        rw [List.map_append, List.pairwise_append] at hclock
        exact hclock.2.2 _ (List.mem_map_of_mem hq) _ (by simp)
      exact hle.trans (hafter r (by simp) name)
    rw [h.level] at hchange
    rcases h.reports hrounds hname hchange hnow with hup | ⟨hdown, huptime⟩
    · exact Or.inl hup
    · exact Or.inr (Or.inr ⟨hdown, hfirst, huptime⟩)

/-- A poll of `dualWan` at this reading, processed a second later. -/
def answeringAt (now : ℤ) (hop : String) : Round where
  input := { now := now, nextHop := (Round.answering hop).input.nextHop }
  order := (Round.answering hop).order
  clock := fun _ ↦ now + 1000000

def routeKept : List Round := [answeringAt 0 "10.0.0.1", answeringAt 60000000 "10.0.0.1"]

/-- The route leaves WAN1 after two minutes. -/
theorem durations_dualWan :
    ∃ alert ∈ alertsAt dualWan routeKept (answeringAt 120000000 "10.0.0.2"),
      alert.title = "WAN1 DOWN" ∧
        ReportsUptime dualWan routeKept (answeringAt 120000000 "10.0.0.2") "WAN1" alert := by
  have htitles : (alertsAt dualWan routeKept (answeringAt 120000000 "10.0.0.2")).map
      AlertEvent.title = ["WAN1 DOWN", "WAN2 RECOVERED"] := by decide
  obtain ⟨alert, others, halerts, htitle, -⟩ := List.map_eq_cons_iff.mp htitles
  have halert : alert ∈ alertsAt dualWan routeKept (answeringAt 120000000 "10.0.0.2") := by
    rw [halerts]
    exact List.mem_cons_self
  have hcovers : ∀ x ∈ routeKept ++ [answeringAt 120000000 "10.0.0.2"],
      x.Covers dualWan.wanGateways := by
    simp only [routeKept, List.cons_append, List.nil_append, List.forall_mem_cons]
    exact ⟨List.Perm.refl _, List.Perm.refl _, List.Perm.refl _, by simp⟩
  have hafter : ∀ x ∈ routeKept ++ [answeringAt 120000000 "10.0.0.2"], ∀ name,
      x.input.now ≤ x.clock name := by
    simp only [routeKept, List.cons_append, List.nil_append, List.forall_mem_cons]
    have hlater (now : ℤ) (hop : String) (name : String) :
        (answeringAt now hop).input.now ≤ (answeringAt now hop).clock name :=
      Int.le_add_of_nonneg_right (by decide)
    exact ⟨hlater _ _, hlater _ _, hlater _ _, by simp⟩
  obtain ⟨name, hname, hreports⟩ := durations_exact dualWan hcovers (by decide) hafter halert
  have hkeys : dualWan.wanGateways.keys = ["WAN1", "WAN2"] := rfl
  rw [hkeys, List.mem_pair] at hname
  rcases hname with rfl | rfl
  · rcases hreports with ⟨hup, -⟩ | ⟨-, hfirst, -⟩ | ⟨-, -, huptime⟩
    · exact absurd hup (by decide)
    · exact absurd hfirst (List.cons_ne_nil _ _)
    · exact ⟨alert, halert, htitle, huptime⟩
  · rcases hreports with ⟨-, hdowntime⟩ | ⟨hdown, -⟩ | ⟨hdown, -⟩
    · exact absurd (htitle.symm.trans hdowntime.title) (by decide)
    · exact absurd hdown (by decide)
    · exact absurd hdown (by decide)

end Monitoring

end WanRouter
