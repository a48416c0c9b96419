import WanRouter.Local.Failover

/-!
# Polls without an answer

A next-hop query that fails selects no WAN, so its poll reports every WAN DOWN.
It is silent exactly when the engine tracks every configured WAN as DOWN
already.
-/

namespace WanRouter

open OrderedDict EdgeDetector SNMPPoller

/-- `_wan_states[interface].current_status`, if the interface is tracked. -/
def AlertEngine.trackedStatus (self : AlertEngine) (interface : String) :
    Option InterfaceStatus :=
  (self.wanStates.get? interface).map AlertState.currentStatus

theorem AlertEngine.trackedStatus_eq_down_iff (self : AlertEngine) (interface : String) :
    self.trackedStatus interface = some .down ↔ self.level interface = .down := by
  cases hget : self.wanStates.get? interface with
  | none => simp [trackedStatus, level, alertState, AlertState.level, hget]
  | some state =>
      cases hs : state.currentStatus <;>
        simp [trackedStatus, level, alertState, AlertState.level, hget, hs]

namespace Monitoring

variable {self : Monitoring} {r : Round}

theorem selected_of_unanswered (self : Monitoring) (hr : getNextHop r.input.nextHop = none) :
    self.selected r = none := by
  rw [selected, hr]
  rfl

theorem trackedStatus_round_of_not_mem (hr : r.Covers self.poller.wanGateways) {name : String}
    (hname : name ∉ self.poller.wanGateways.keys) :
    (self.round r).1.engine.trackedStatus name = self.engine.trackedStatus name := by
  have hagrees := self.agreesAt_round hr.visits (mt hr.mem_iff.mp hname)
  rw [AlertEngine.trackedStatus, hagrees.wanState, AlertEngine.trackedStatus]

/-- A round without an answer tracks every configured WAN as DOWN. -/
theorem trackedStatus_round_unanswered (hr : r.Covers self.poller.wanGateways)
    (hnone : getNextHop r.input.nextHop = none) {name : String}
    (hname : name ∈ self.poller.wanGateways.keys) :
    (self.round r).1.engine.trackedStatus name = some .down := by
  rw [AlertEngine.trackedStatus_eq_down_iff, self.round_level hr.visits (hr.mem_iff.mpr hname),
    self.selected_of_unanswered hnone]
  exact indicator_of_ne (by simp)

/-- No DOWN alert is emitted and no tracked status changes. -/
def KeepsStatuses (self : Monitoring) (r : Round) : Prop :=
  (∀ alert ∈ (self.round r).2, ∀ name, alert.title ≠ name ++ " DOWN") ∧
    ∀ name, (self.round r).1.engine.trackedStatus name = self.engine.trackedStatus name

theorem keepsStatuses_iff (hr : r.Covers self.poller.wanGateways)
    (hnone : getNextHop r.input.nextHop = none) :
    self.KeepsStatuses r ↔
      ∀ name ∈ self.poller.wanGateways.keys, self.engine.trackedStatus name = some .down := by
  constructor
  · intro h name hname
    rw [← h.2 name]
    exact trackedStatus_round_unanswered hr hnone hname
  · intro h
    have hsettled : self.Settled (self.selected r) := by
      intro name hname
      rw [self.selected_of_unanswered hnone, indicator_of_ne (by simp)]
      exact (AlertEngine.trackedStatus_eq_down_iff _ _).mp (h name hname)
    refine ⟨by simp [hsettled.round_silent hr], ?_⟩
    intro name
    by_cases hname : name ∈ self.poller.wanGateways.keys
    · rw [trackedStatus_round_unanswered hr hnone hname, h name hname]
    · exact trackedStatus_round_of_not_mem hr hname

/-! ## Inserting unanswered polls into a run -/

/-- The titles of a run depend only on the levels it starts from. -/
theorem alertTitles_congr {m n : Monitoring} {selection : Option String}
    (hgateways : m.poller.wanGateways = n.poller.wanGateways)
    (hm : m.Settled selection) (hn : n.Settled selection) {rs : List Round}
    (hrs : ∀ x ∈ rs, x.Covers m.poller.wanGateways) :
    m.alertTitles rs = n.alertTitles rs := by
  induction rs generalizing m n selection with
  | nil => rfl
  | cons x rs ih =>
      have hx := hrs x (by simp)
      have hx' : x.Covers n.poller.wanGateways := hgateways ▸ hx
      have hselected := selected_congr hgateways x
      have hround : (m.round x).2.map AlertEvent.title = (n.round x).2.map AlertEvent.title := by
        rw [hm.round_alerts hx, hn.round_alerts hx', List.map_map, List.map_map, hselected]
        apply List.map_congr_left
        intro name _
        rw [Function.comp_apply, Function.comp_apply, title_alertFor, title_alertFor, hselected]
      have hn' : (n.round x).1.Settled (m.selected x) := hselected ▸ settled_round hx'
      have hrest := ih (m := (m.round x).1) (n := (n.round x).1) hgateways
        (settled_round hx) hn' fun y hy ↦ hrs y (by simp [hy])
      rw [alertTitles_cons, alertTitles_cons, hround, hrest]

/-- Unanswered rounds between two rounds that select the same WAN are silent, and
so is the later of the two, exactly when there are none or no WAN is selected. -/
theorem titles_unanswered_eq_nil_iff {selection : Option String} (hm : self.Settled selection)
    {us : List Round} (hus : ∀ u ∈ us, u.Covers self.poller.wanGateways ∧
      getNextHop u.input.nextHop = none)
    (hr : r.Covers self.poller.wanGateways) (hselected : self.selected r = selection) :
    self.alertTitles (us ++ [r]) = [] ↔ us = [] ∨ selection = none := by
  constructor
  · intro h
    by_contra hne
    obtain ⟨hus', hsel⟩ := not_or.mp hne
    obtain ⟨u, us, rfl⟩ := List.exists_cons_of_ne_nil hus'
    obtain ⟨active, rfl⟩ := Option.ne_none_iff_exists'.mp hsel
    obtain ⟨hu, hnone⟩ := hus u (by simp)
    have hmem : active ∈ self.poller.wanGateways.keys :=
      self.poller.activeWan_mem_keys hselected
    have hdown : AlertEngine.wanTitle active .down ∈ (self.round u).2.map AlertEvent.title := by
      rw [self.titles_round hu.visits, self.selected_of_unanswered hnone]
      refine List.mem_map.mpr ⟨active, List.mem_filter.mpr ⟨hu.mem_iff.mpr hmem, ?_⟩, rfl⟩
      rw [hm active hmem]
      simp [indicator]
    rw [List.cons_append, alertTitles_cons] at h
    simp [(List.append_eq_nil_iff.mp h).1] at hdown
  · intro h
    have hall : ∀ x ∈ us ++ [r], x.Covers self.poller.wanGateways ∧
        self.selected x = selection := by
      intro x hx
      rcases List.mem_append.mp hx with hx | hx
      · rcases h with rfl | rfl
        · simp at hx
        · exact ⟨(hus x hx).1, self.selected_of_unanswered (hus x hx).2⟩
      · rw [List.mem_singleton.mp hx]
        exact ⟨hr, hselected⟩
    have hsilent := (hm.silent_run hall).1
    rw [alertTitles, List.flatten_eq_nil_iff.mpr hsilent, List.map_nil]

/-- Unanswered rounds inserted before `r` change the alerts of the run exactly when
`r` selects a WAN. -/
theorem Settled.alertTitles_insert_iff (h : self.Settled (self.selected r))
    {us post : List Round} (hcovers : ∀ x ∈ us ++ r :: post, x.Covers self.poller.wanGateways)
    (hus : ∀ u ∈ us, getNextHop u.input.nextHop = none) :
    self.alertTitles (us ++ r :: post) = self.alertTitles (r :: post) ↔
      us = [] ∨ self.selected r = none := by
  have hr := hcovers r (by simp)
  have hkeep := run_wanGateways self us
  -- With and without them the run leaves `r` at the same levels.
  have hlong : (Mealy.run round self (us ++ [r])).Settled (self.selected r) := by
    rw [Mealy.run_append, ← selected_congr hkeep r]
    exact settled_round (hkeep.symm ▸ hr)
  have hpost : (Mealy.run round self (us ++ [r])).alertTitles post =
      (self.round r).1.alertTitles post := by
    have hgateways : (Mealy.run round self (us ++ [r])).poller.wanGateways =
        (self.round r).1.poller.wanGateways := run_wanGateways self _
    apply alertTitles_congr hgateways hlong (settled_round hr)
    intro x hx
    rw [run_wanGateways]
    exact hcovers x (by simp [hx])
  have hlist : us ++ r :: post = us ++ [r] ++ post := by simp
  rw [hlist, alertTitles_append, hpost, alertTitles_cons, h.round_silent hr, List.map_nil,
    List.nil_append, List.append_left_eq_self]
  exact titles_unanswered_eq_nil_iff h
    (fun u hu ↦ ⟨hcovers u (by simp [hu]), hus u hu⟩) hr rfl

/-- An unanswered poll is harmless exactly when every configured WAN is tracked as
DOWN before it; and unanswered polls inserted between two polls answered with the
same next hop add no alert exactly when that hop is no configured gateway. -/
theorem unanswered_poll_silent_iff (router : RouterConfig) (rs : List Round) :
    (∀ m r, m = Mealy.run round (init router) rs → r.Covers router.wanGateways →
      getNextHop r.input.nextHop = none →
      (m.KeepsStatuses r ↔
        ∀ name ∈ router.wanGateways.keys, m.engine.trackedStatus name = some .down)) ∧
    ∀ q us r post hop, (∀ x ∈ q :: us ++ r :: post, x.Covers router.wanGateways) →
      getNextHop q.input.nextHop = some hop → getNextHop r.input.nextHop = some hop →
      (∀ u ∈ us, getNextHop u.input.nextHop = none) →
      ((init router).alertTitles (rs ++ q :: (us ++ r :: post)) =
          (init router).alertTitles (rs ++ q :: r :: post) ↔
        us = [] ∨ (init router).selected q = none) := by
  have hgateways := run_wanGateways (init router) rs
  constructor
  · rintro m r rfl hr hnone
    have hcovers : r.Covers (Mealy.run round (init router) rs).poller.wanGateways :=
      hgateways.symm ▸ hr
    have hiff := keepsStatuses_iff hcovers hnone
    rw [hgateways] at hiff
    exact hiff
  · intro q us r post hop hcovers hq hr hus
    have hkeep := run_wanGateways (init router) (rs ++ [q])
    have hsame : (Mealy.run round (init router) (rs ++ [q])).selected r =
        (init router).selected q := by
      rw [selected_congr hkeep, selected, selected, hq, hr]
    have hsettled : (Mealy.run round (init router) (rs ++ [q])).Settled
        ((Mealy.run round (init router) (rs ++ [q])).selected r) := by
      rw [hsame, Mealy.run_append, ← selected_congr hgateways q]
      exact settled_round (hgateways.symm ▸ hcovers q (by simp))
    have hsplit : ∀ vs, (init router).alertTitles (rs ++ q :: vs) =
        (init router).alertTitles (rs ++ [q]) ++
          (Mealy.run round (init router) (rs ++ [q])).alertTitles vs := by
      intro vs
      rw [List.append_cons, alertTitles_append]
    rw [hsplit (us ++ r :: post), hsplit (r :: post), List.append_cancel_left_eq, ← hsame]
    apply hsettled.alertTitles_insert_iff
    · intro x hx
      rw [hkeep]
      exact hcovers x (List.mem_cons_of_mem q hx)
    · exact hus

theorem unanswered_poll_dualWan :
    ¬(init dualWan).KeepsStatuses .lost ∧
    (init dualWan).alertTitles [.answering "10.0.0.1", .lost, .answering "10.0.0.1"] ≠
      (init dualWan).alertTitles [.answering "10.0.0.1", .answering "10.0.0.1"] := by
  obtain ⟨hpoll, hinsert⟩ := unanswered_poll_silent_iff dualWan []
  constructor
  · apply (hpoll _ _ rfl (Round.covers_ofReply _) rfl).not.mpr
    decide
  · refine (hinsert (.answering "10.0.0.1") [.lost] (.answering "10.0.0.1") [] "10.0.0.1"
      ?_ ?_ ?_ ?_).not.mpr (by decide)
    · intro x hx
      rcases List.mem_cons.mp hx with rfl | hx
      · exact Round.covers_ofReply _
      · rcases List.mem_cons.mp hx with rfl | hx
        · exact Round.covers_ofReply _
        · exact List.mem_singleton.mp hx ▸ Round.covers_ofReply _
    · rfl
    · rfl
    · exact fun u hu ↦ List.mem_singleton.mp hu ▸ rfl

/-- One lost reply reports the active WAN DOWN, and the next answer RECOVERED. -/
theorem lost_reply_reports_down :
    getNextHop Round.lost.input.nextHop = none ∧
      (init dualWan).alertTitles [.answering "10.0.0.1", .lost, .answering "10.0.0.1"] =
        ["WAN2 DOWN", "WAN1 DOWN", "WAN1 RECOVERED"] ∧
      (init dualWan).alertTitles [.answering "10.0.0.1", .answering "10.0.0.1"] =
        ["WAN2 DOWN"] :=
  ⟨rfl, by decide, by decide⟩

end Monitoring

end WanRouter
