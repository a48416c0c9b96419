import WanRouter.Local.Rounds
import WanRouter.Shared.TimeText

/-!
# What a run of rounds alerts

After one complete round the levels are the indicator of the WAN its next hop
selected.  The alerts of the next round then follow from the two selections
alone.
-/

namespace WanRouter

open OrderedDict EdgeDetector SNMPPoller

namespace Monitoring

/-- The level of every configured WAN is UP exactly for the selected one. -/
def Settled (self : Monitoring) (selection : Option String) : Prop :=
  ∀ name ∈ self.poller.wanGateways.keys,
    self.engine.level name = indicator .up .down selection name

variable {self : Monitoring} {selection : Option String} {r : Round}

theorem settled_round (hr : r.Covers self.poller.wanGateways) :
    (self.round r).1.Settled (self.selected r) :=
  fun _name hname ↦ self.round_level hr.visits (hr.mem_iff.mpr hname)

theorem Settled.round_alerts (h : self.Settled selection)
    (hr : r.Covers self.poller.wanGateways) :
    (self.round r).2 = (r.order.filter fun name ↦
        indicator .up .down (self.selected r) name ≠
          (indicator .up .down selection name : InterfaceStatus)).map (self.alertFor r) := by
  rw [self.round_alerts hr.visits]
  congr 1
  apply List.filter_congr
  intro name hname
  rw [h name (hr.mem_iff.mp hname)]

/-- A round that selects the same WAN again is silent. -/
theorem Settled.round_silent (h : self.Settled (self.selected r))
    (hr : r.Covers self.poller.wanGateways) : (self.round r).2 = [] := by
  rw [h.round_alerts hr]
  simp

/-! ## Failover -/

theorem failoverTarget_states (poller : SNMPPoller) (input : PollInput) {name : String}
    (h : poller.activeWan (getNextHop input.nextHop) ≠ some name) :
    AlertEngine.failoverTarget (poller.wanState input name) (some (poller.states input)) =
      poller.activeWan (getNextHop input.nextHop) := by
  apply Dict.map_fst_find?
  · intro k v hv
    have hup : v.status = .up ↔ poller.activeWan (getNextHop input.nextHop) = some k := by
      rw [← reportsUp_states_iff, reportsUp, Option.getD_some] at *
      simp [hv]
    have hname : (poller.wanState input name).interface = name := rfl
    simp only [hname, decide_eq_true_eq, hup]
    exact ⟨And.left, fun hk ↦ ⟨hk, fun heq ↦ h (heq ▸ hk)⟩⟩
  · intro k hk
    rw [Option.getD_some, keys_states]
    exact poller.activeWan_mem_keys hk

def failoverReport : Option String → String
  | some active => "Failover: active on " ++ active
  | none => "Failover: no active WAN detected"

def linesAbove (router : RouterConfig) (now : ℤ) (uptime : String) : List String :=
  headLines router now ++ ["Previous state: UP for " ++ uptime]

def linesBelow (linkUp : Option Bool) : List String :=
  AlertEngine.linkLine linkUp ++ ["Action: Monitoring at 15s intervals"]

def IsFailoverLine (line : String) : Prop := "Failover: ".toList <+: line.toList

instance (line : String) : Decidable (IsFailoverLine line) :=
  inferInstanceAs (Decidable (_ <+: _))

/-- A DOWN alert of the router for the interface.  One line of its message is a failover
line, and this one reports the active WAN. -/
structure IsDownAlert (router : RouterConfig) (interface : String) (active : Option String)
    (alert : AlertEvent) : Prop where
  title : alert.title = interface ++ " DOWN"
  failover : ∃ before after,
    alert.message = "\n".intercalate (before ++ [failoverReport active] ++ after) ∧
    ∀ line ∈ before ++ after, ¬IsFailoverLine line ∧
      (OneLine router.name → OneLine router.host → OneLine line)

theorem failoverLine_eq {active : Option String} (h : active ≠ some "") :
    AlertEngine.failoverLine active = failoverReport active := by
  unfold AlertEngine.failoverLine failoverReport
  rcases active with _ | name
  · rfl
  · exact if_neg fun heq ↦ h (congrArg some heq)

theorem not_isFailoverLine {label : String} {c : Char} {rest : List Char} (text : String)
    (hlabel : label.toList = c :: rest) (hc : c ≠ 'F') : ¬IsFailoverLine (label ++ text) := by
  rintro ⟨tail, htail⟩
  rw [String.toList_append, hlabel] at htail
  exact hc (List.cons.inj htail).1.symm

theorem oneLine_previousDuration (previous : Option WANState) (status : InterfaceStatus)
    (now : ℤ) : OneLine (AlertEngine.previousDuration previous status now) := by
  have hunknown : OneLine "unknown" := by decide
  cases previous with
  | none => exact hunknown
  | some p =>
      change OneLine (if p.status = status then formatDuration (totalSeconds (now - p.since))
        else "unknown")
      split_ifs
      · exact oneLine_formatDuration _
      · exact hunknown

theorem oneLine_routerLine {name host : String} (hname : OneLine name) (hhost : OneLine host) :
    OneLine ("Router: " ++ name ++ " (" ++ host ++ ")") := by
  have hbracket : OneLine ("Router: " ++ name ++ " (") :=
    (OneLine.append (by decide) hname).append (by decide)
  exact (hbracket.append hhost).append (by decide)

theorem oneLine_timeLine (now : ℤ) : OneLine ("Time: " ++ strftimeUtc now) := by
  apply OneLine.append
  · decide
  · exact oneLine_strftimeUtc now

theorem linesAbove_spec (router : RouterConfig) (now : ℤ) {uptime : String}
    (huptime : OneLine uptime) :
    ∀ line ∈ linesAbove router now uptime,
      ¬IsFailoverLine line ∧ (OneLine router.name → OneLine router.host → OneLine line) := by
  have hrouter : "Router: " ++ router.name ++ " (" ++ router.host ++ ")" =
      "Router: " ++ (router.name ++ " (" ++ router.host ++ ")") := by
    simp only [String.append_assoc]
  simp only [linesAbove, headLines, List.forall_mem_append, List.forall_mem_cons, List.not_mem_nil,
    false_imp_iff, implies_true, and_true]
  refine ⟨⟨⟨?_, ?_⟩, ?_, ?_⟩, ?_, ?_⟩
  · rw [hrouter]
    exact not_isFailoverLine _ rfl (by decide)
  · exact oneLine_routerLine
  · exact not_isFailoverLine _ rfl (by decide)
  · exact fun _ _ ↦ oneLine_timeLine now
  · exact not_isFailoverLine _ rfl (by decide)
  · exact fun _ _ ↦ OneLine.append (by decide) huptime

theorem linesBelow_spec (linkUp : Option Bool) :
    ∀ line ∈ linesBelow linkUp, ¬IsFailoverLine line ∧ OneLine line := by
  rcases linkUp with _ | _ | _ <;> decide

theorem message_downAlert {engine : AlertEngine} {router : RouterConfig} {now : ℤ}
    (hrouter : engine.routerLines now = headLines router now) (state : WANState)
    (uptime : String) (target : Option String) :
    (engine.downAlert now state uptime target).message = "\n".intercalate
      (linesAbove router now uptime ++ [AlertEngine.failoverLine target] ++
        linesBelow state.linkUp) := by
  rw [AlertEngine.downAlert, hrouter, linesAbove, linesBelow]
  simp only [List.append_assoc, List.cons_append, List.nil_append]

theorem alertFor_isDownAlert (self : Monitoring) {r : Round} {name : String}
    {router : RouterConfig} (hrouter : ∀ now, self.engine.routerLines now = headLines router now)
    (h : self.selected r ≠ some name) (hnames : "" ∉ self.poller.wanGateways.keys) :
    IsDownAlert router name (self.selected r) (self.alertFor r name) := by
  have hactive : self.selected r ≠ some "" :=
    fun hempty ↦ hnames (self.poller.activeWan_mem_keys hempty)
  have hdown : (self.poller.wanState r.input name).status = .down :=
    (wanState_status _ _ _).trans (indicator_of_ne h)
  rw [alertFor, AlertEngine.changeAlert, if_pos hdown, failoverTarget_states _ _ h]
  rw [← selected]
  have huptime := oneLine_previousDuration (self.engine.previousWan.get? name) .up (r.clock name)
  have hmessage := message_downAlert (hrouter (r.clock name)) (self.poller.wanState r.input name)
    (AlertEngine.previousDuration (self.engine.previousWan.get? name) .up (r.clock name))
    (self.selected r)
  rw [failoverLine_eq hactive] at hmessage
  refine ⟨rfl, _, _, hmessage, ?_⟩
  rw [List.forall_mem_append]
  refine ⟨linesAbove_spec router _ huptime, ?_⟩
  intro line hline
  obtain ⟨hother, hone⟩ := linesBelow_spec _ line hline
  exact ⟨hother, fun _ _ ↦ hone⟩

theorem title_alertFor (self : Monitoring) (r : Round) (name : String) :
    (self.alertFor r name).title =
      AlertEngine.wanTitle name (indicator .up .down (self.selected r) name) :=
  AlertEngine.title_changeAlert _ _ _ (wanState_status_ne_unknown _ _ name)

theorem titles_round (hr : r.Visits self.poller.wanGateways) :
    (self.round r).2.map AlertEvent.title =
      (r.order.filter fun name ↦
        ¬indicator .up .down (self.selected r) name = self.engine.level name).map fun name ↦
          AlertEngine.wanTitle name (indicator .up .down (self.selected r) name) := by
  rw [self.round_alerts hr, List.map_map]
  exact List.map_congr_left fun name _ ↦ self.title_alertFor r name

/-- For every run, the two WANs that are UP in consecutive polls determine the
alerts of the later poll, in whatever order its states are processed. -/
theorem failover_exactness (router : RouterConfig) (hnames : "" ∉ router.wanGateways.keys)
    (rs : List Round) {q r : Round} (hq : q.Covers router.wanGateways)
    (hr : r.Covers router.wanGateways) {m m' : Monitoring}
    (hm : m = Mealy.run round (init router) rs) (hm' : m' = (m.round q).1) :
    ∃ a b : Option String,
      (∀ name, reportsUp (m.poller.poll q.input).2 name ↔ a = some name) ∧
      (∀ name, reportsUp (m'.poller.poll r.input).2 name ↔ b = some name) ∧
      (a = b → (m'.round r).2 = []) ∧
      (a ≠ b → ∃ downs recovereds : List AlertEvent,
        (m'.round r).2.Perm (downs ++ recovereds) ∧
        List.Forall₂ (fun name alert ↦ IsDownAlert router name b alert) a.toList downs ∧
        List.Forall₂ (fun name alert ↦ alert.title = name ++ " RECOVERED") b.toList
          recovereds) := by
  have hgateways : m.poller.wanGateways = router.wanGateways := by
    rw [hm, run_wanGateways]
    rfl
  have hgateways' : m'.poller.wanGateways = router.wanGateways := by
    rw [hm']
    exact hgateways
  have hrouter : ∀ now, m'.engine.routerLines now = headLines router now := by
    intro now
    have hlines := routerLines_run router (rs ++ [q]) now
    rwa [Mealy.run_append, ← hm, Mealy.run_cons, Mealy.run_nil, ← hm'] at hlines
  have hsettled : m'.Settled (m.selected q) := by
    rw [hm']
    exact settled_round (hgateways.symm ▸ hq)
  have hcovers : r.Covers m'.poller.wanGateways := hgateways'.symm ▸ hr
  refine ⟨m.selected q, m'.selected r, reportsUp_states_iff _ _, reportsUp_states_iff _ _,
    fun hab ↦ (hab ▸ hsettled : m'.Settled (m'.selected r)).round_silent hcovers, ?_⟩
  intro hab
  have hmem : ∀ name ∈ m'.selected r, name ∈ r.order := fun name hname ↦
    hcovers.mem_iff.mpr (m'.poller.activeWan_mem_keys hname)
  have hmem' : ∀ name ∈ m.selected q, name ∈ r.order := fun name hname ↦
    hr.mem_iff.mpr (hgateways ▸ m.poller.activeWan_mem_keys hname)
  have hperm := filter_indicator_perm (by decide : InterfaceStatus.up ≠ .down)
    (hr.nodup_iff.mpr router.wanGateways.keys_nodup) hab hmem' hmem
  refine ⟨(m.selected q).toList.map (m'.alertFor r),
    (m'.selected r).toList.map (m'.alertFor r), ?_, ?_, ?_⟩
  · rw [hsettled.round_alerts hcovers, ← List.map_append]
    exact hperm.map _
  · rw [List.forall₂_map_right_iff, List.forall₂_same]
    intro name hname
    have hne : m'.selected r ≠ some name :=
      fun heq ↦ hab ((Option.mem_toList.mp hname).trans heq.symm)
    exact m'.alertFor_isDownAlert hrouter hne (hgateways'.symm ▸ hnames)
  · rw [List.forall₂_map_right_iff, List.forall₂_same]
    intro name hname
    rw [title_alertFor, indicator_of_eq (Option.mem_toList.mp hname)]
    rfl

theorem failover_dualWan :
    ∃ downs recovereds : List AlertEvent,
      (((init dualWan).round (.answering "10.0.0.1")).1.round (.answering "10.0.0.2")).2.Perm
        (downs ++ recovereds) ∧
      List.Forall₂ (fun name alert ↦ IsDownAlert dualWan name (some "WAN2") alert) ["WAN1"]
        downs ∧
      List.Forall₂ (fun name alert ↦ alert.title = name ++ " RECOVERED") ["WAN2"]
        recovereds := by
  obtain ⟨a, b, ha, hb, -, hfailover⟩ :=
    failover_exactness dualWan (by decide) [] (q := .answering "10.0.0.1")
      (r := .answering "10.0.0.2") (Round.covers_ofReply _) (Round.covers_ofReply _) rfl rfl
  have ha' := (ha "WAN1").mp (by rw [reportsUp]; decide)
  have hb' := (hb "WAN2").mp (by rw [reportsUp]; decide)
  subst ha' hb'
  exact hfailover (by decide)

/-! ## A steady route -/

def alertTitles (self : Monitoring) (rs : List Round) : List String :=
  (Mealy.outputs round self rs).flatten.map AlertEvent.title

theorem alertTitles_cons (self : Monitoring) (r : Round) (rs : List Round) :
    self.alertTitles (r :: rs) =
      (self.round r).2.map AlertEvent.title ++ (self.round r).1.alertTitles rs := by
  simp [alertTitles]

theorem alertTitles_append (self : Monitoring) (rs rs' : List Round) :
    self.alertTitles (rs ++ rs') =
      self.alertTitles rs ++ (Mealy.run round self rs).alertTitles rs' := by
  simp [alertTitles]

/-- Rounds that keep selecting the same WAN are all silent. -/
theorem Settled.silent_run (h : self.Settled selection) {rs : List Round}
    (hrs : ∀ x ∈ rs, x.Covers self.poller.wanGateways ∧ self.selected x = selection) :
    (∀ alerts ∈ Mealy.outputs round self rs, alerts = []) ∧
      (Mealy.run round self rs).Settled selection := by
  induction rs generalizing self with
  | nil => exact ⟨by simp, h⟩
  | cons x rs ih =>
      obtain ⟨hcovers, hselected⟩ := hrs x (by simp)
      subst hselected
      have hrest := ih (settled_round hcovers) fun y hy ↦ hrs y (by simp [hy])
      refine ⟨?_, hrest.2⟩
      intro alerts halerts
      rcases List.mem_cons.mp halerts with rfl | halerts
      · exact h.round_silent hcovers
      · exact hrest.1 alerts halerts

/-- The first round of a fresh monitor alerts every WAN that it reports DOWN. -/
theorem titles_first_round (router : RouterConfig) (hr : r.Covers router.wanGateways) :
    ((init router).round r).2.map AlertEvent.title =
      (r.order.filter fun name ↦ (init router).selected r ≠ some name).map
        (· ++ " DOWN") := by
  have hfilter : ∀ name, (¬indicator .up .down ((init router).selected r) name =
      (init router).engine.level name) ↔ (init router).selected r ≠ some name :=
    fun name ↦ not_congr (indicator_eq_on_iff (by decide) _ _)
  rw [round_alerts _ hr.visits, List.map_map]
  simp only [hfilter]
  apply List.map_congr_left
  intro name hname
  have hne := of_decide_eq_true (List.mem_filter.mp hname).2
  rw [Function.comp_apply, title_alertFor, indicator_of_ne hne]
  rfl

/-- With a steady route only the first round alerts: one DOWN for each WAN that
does not carry the route. -/
theorem steady_route_alerts_once (router : RouterConfig)
    (hdistinct : router.wanGateways.values.Nodup) {active gateway : String}
    (hactive : router.wanGateways.get? active = some gateway) (r : Round) (rs : List Round)
    (hrounds : ∀ x ∈ r :: rs, x.Covers router.wanGateways ∧
      answeredHop x.input.nextHop = some gateway) :
    (((init router).round r).2.map AlertEvent.title).Perm
        ((router.wanGateways.keys.filter (· ≠ active)).map (· ++ " DOWN")) ∧
      ∀ alerts ∈ Mealy.outputs round ((init router).round r).1 rs, alerts = [] := by
  have hselected : ∀ m : Monitoring, m.poller.wanGateways = router.wanGateways →
      ∀ x ∈ r :: rs, m.selected x = some active := by
    intro m hm x hx
    rw [← hm] at hdistinct hactive
    exact m.poller.activeWan_of_answered hdistinct hactive (hrounds x hx).2
  have hfirst : (init router).selected r = some active := hselected _ rfl r (by simp)
  have hcovers := (hrounds r (by simp)).1
  constructor
  · rw [titles_first_round _ hcovers, hfirst]
    apply List.Perm.map
    simpa [eq_comm] using hcovers.filter fun name ↦ decide (some active ≠ some name)
  · have hsettled : ((init router).round r).1.Settled (some active) := by
      rw [← hfirst]
      exact settled_round hcovers
    exact (hsettled.silent_run fun x hx ↦
      ⟨(hrounds x (by simp [hx])).1, hselected _ rfl x (by simp [hx])⟩).1

theorem steady_route_dualWan :
    (((init dualWan).round (.answering "10.0.0.1")).2.map AlertEvent.title).Perm
        ((dualWan.wanGateways.keys.filter (· ≠ "WAN1")).map (· ++ " DOWN")) ∧
      ∀ alerts ∈ Mealy.outputs round ((init dualWan).round (.answering "10.0.0.1")).1
        [.answering "10.0.0.1"], alerts = [] :=
  have hactive : dualWan.wanGateways.get? "WAN1" = some "10.0.0.1" := by decide
  steady_route_alerts_once dualWan (by decide) hactive _ _
    (by simpa using ⟨Round.covers_ofReply _, by decide⟩)

/-- The standby WAN is reported although the route never moves. -/
theorem standby_reported_down :
    dualWan.wanGateways.values.Nodup ∧
      (Round.answering "10.0.0.1").Covers dualWan.wanGateways ∧
      answeredHop (Round.answering "10.0.0.1").input.nextHop =
        dualWan.wanGateways.get? "WAN1" ∧
      (init dualWan).alertTitles [.answering "10.0.0.1"] = ["WAN2 DOWN"] :=
  ⟨by decide, Round.covers_ofReply _, by decide, by decide⟩

end Monitoring

end WanRouter
