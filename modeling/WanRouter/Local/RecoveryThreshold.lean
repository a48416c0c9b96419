import WanRouter.Local.PollIntervals

/-!
# The recovery threshold of a router with one WAN

The engine counts the stable calls against a constant of its own and is built
without the configured threshold.  So the alert state lasts for five more UP polls
after a recovery, whatever `recovery_threshold` says.
-/

namespace WanRouter

open OrderedDict EdgeDetector SNMPPoller

namespace LocalMonitor

variable {config : LocalConfig} {telegram : TelegramNotifier} {rs us : List IterationRecord}
  {m m₁ m₂ : LocalMonitor} {r : IterationRecord} {name : String}

theorem PollLoop.append (h : PollLoop m rs m₁) (h' : PollLoop m₁ us m₂) :
    PollLoop m (rs ++ us) m₂ := by
  induction h' with
  | start => rwa [List.append_nil]
  | iterate _ hiterates ih =>
      rw [← List.append_assoc]
      exact .iterate ih hiterates

/-- What an iteration leaves about a WAN that it processed. -/
theorem Iterates.alertState_of_mem (h : Iterates m r m₁) (hname : name ∈ r.processed) :
    name ∈ m₁.alertEngine.wanStates.keys ∧ m₁.alertEngine.level name = r.status name ∧
      (m₁.alertEngine.alertState name).consecutiveStable =
        if m.alertEngine.level name = r.status name then
          (m.alertEngine.alertState name).consecutiveStable + 1
        else 0 := by
  obtain ⟨rd, horder, hvisits, hmonitoring, -, hstatus⟩ := h.visits
  have hengine : m₁.alertEngine = (m.monitoring.round rd).1.engine :=
    congrArg Monitoring.engine hmonitoring
  have hmem : name ∈ rd.order := horder ▸ hname
  rw [hengine, hstatus name hname]
  refine ⟨?_, m.monitoring.round_level hvisits hmem,
    m.monitoring.round_consecutiveStable hvisits hmem⟩
  exact (m.monitoring.mem_keys_round hvisits).mpr (Or.inr hmem)

theorem Iterates.exists_input_of_up (h : Iterates m r m₁) (hname : name ∈ r.processed)
    (hup : r.status name = .up) :
    ∃ input : PollInput, m.poller.activeWan (getNextHop input.nextHop) = some name := by
  obtain ⟨rd, -, -, -, -, hstatus⟩ := h.visits
  rw [hstatus name hname] at hup
  exact ⟨rd.input, (indicator_eq_on_iff (by decide) _ _).mp hup⟩

/-- The WAN is UP and has been stable for this many calls. -/
structure StableFor (m : LocalMonitor) (name : String) (count : ℕ) : Prop where
  observed : name ∈ m.alertEngine.wanStates.keys
  level : m.alertEngine.level name = .up
  stable : (m.alertEngine.alertState name).consecutiveStable = count

theorem StableFor.iterate {count : ℕ} (h : StableFor m name count) (hiterates : Iterates m r m₁)
    (hname : name ∈ r.processed) (hup : r.status name = .up) : StableFor m₁ name (count + 1) := by
  obtain ⟨hobserved, hlevel, hstable⟩ := hiterates.alertState_of_mem hname
  rw [hup, if_pos h.level, h.stable] at hstable
  exact ⟨hobserved, hlevel.trans hup, hstable⟩

/-! ## A router with one WAN -/

section OneWan

variable (hsingle : config.router.wanGateways.keys = [name])

include hsingle

/-- Every iteration processes the only WAN, since only its own alert can raise. -/
theorem HandsOver.processed_eq (h : HandsOver config.router rs r) : r.processed = [name] := by
  have hprocessed := h.processed
  rw [hsingle] at hprocessed
  rcases List.prefix_cons_iff.mp hprocessed with hnil | ⟨rest, hone, hrest⟩
  · have htitles := h.titles
    rw [hnil, List.filter_nil, List.map_nil, IterationRecord.titles, List.map_eq_nil_iff] at htitles
    rcases h.complete with heq | ⟨p, hp, -⟩
    · exact heq.trans hsingle
    · simp [htitles] at hp
  · rw [hone, List.prefix_nil.mp hrest]

theorem PollLoop.processed_eq (hloop : PollLoop (init config telegram) rs m)
    (hiterates : Iterates m r m₁) : r.processed = [name] :=
  (hloop.levelsFollow.iterate hiterates).2.processed_eq hsingle

theorem StableFor.flag_iff {count : ℕ} (h : StableFor m name count)
    (hloop : PollLoop (init config telegram) rs m) :
    m.alertEngine.shouldUseAlertInterval = true ↔ count < 5 := by
  have hlevel := h.level
  rw [AlertEngine.level] at hlevel
  rw [AlertEngine.shouldUseAlertInterval_iff, ← h.stable]
  constructor
  · rintro ⟨n, hn, halerting⟩
    have hmem := hloop.observed_mem n hn
    rw [hsingle, List.mem_singleton] at hmem
    subst hmem
    exact halerting.resolve_left (by simp [hlevel])
  · exact fun hlt ↦ ⟨name, h.observed, Or.inr hlt⟩

/-- The iteration that emits RECOVERED starts the count. -/
theorem PollLoop.stableFor_recovered (hloop : PollLoop (init config telegram) rs m)
    (hiterates : Iterates m r m₁) (hrecovered : name ++ " RECOVERED" ∈ r.titles) :
    StableFor m₁ name 0 := by
  have hfollow := hloop.levelsFollow
  have hover := (hfollow.iterate hiterates).2
  have hprocessed := hover.processed_eq hsingle
  have hmem : name ∈ r.processed := by simp [hprocessed]
  obtain ⟨hobserved, hlevel, hstable⟩ := hiterates.alertState_of_mem hmem
  rw [hover.titles, hprocessed] at hrecovered
  obtain ⟨n, hn, htitle⟩ := List.mem_map.mp hrecovered
  obtain ⟨hn, hchange⟩ := List.mem_filter.mp hn
  rw [List.mem_singleton.mp hn, decide_eq_true_eq] at hchange
  rw [List.mem_singleton.mp hn] at htitle
  have hup : r.status name = .up := by
    cases hstatus : r.status name with
    | up => rfl
    | unknown =>
        rw [hstatus] at hlevel
        exact absurd hlevel (AlertState.level_ne_unknown _)
    | down =>
        rw [hstatus] at htitle
        have hno := (AlertEngine.wanTitle_eq_down_iff name name .up).mp htitle.symm
        exact absurd hno.2 (by decide)
  rw [if_neg] at hstable
  · exact ⟨hobserved, hlevel.trans hup, hstable⟩
  · rw [hfollow.level name]
    exact hchange.symm

/-- From a recovered WAN on, the loop can always make one more UP iteration. -/
theorem exists_up_iteration {input : PollInput} (hpos : m.position = .sleeping)
    (hgateways : m.poller.wanGateways = config.router.wanGateways)
    (hlevel : m.alertEngine.level name = .up)
    (hactive : m.poller.activeWan (getNextHop input.nextHop) = some name) :
    ∃ u m', Iterates m u m' ∧ u.status name = .up := by
  have hkeys : m.poller.wanGateways.keys = [name] := hgateways ▸ hsingle
  have hvalues : (m.poller.states input).values = [m.poller.wanState input name] := by
    rw [values_states, hkeys]
    rfl
  have hstatus : (m.poller.wanState input name).status = .up :=
    (wanState_status _ _ _).trans (indicator_of_eq hactive)
  have halerts : (m.alertEngine.processWanState 0 (m.poller.wanState input name)
      (some (m.poller.states input))).2 = [] := by
    rw [AlertEngine.processWanState_alerts _ _ _ (wanState_status_ne_unknown _ _ _), if_pos]
    exact hstatus.trans hlevel.symm
  have hpoll : (m.poller.poll input).2 = m.poller.states input := rfl
  obtain ⟨m', hrun, hpos'⟩ : ∃ m', Machine.run LocalMonitor.step m
      [.startPoll, .polled input, .process 0, .finish] =
        some (m', [.polled (m.poller.states input), .slept m.pollInterval]) ∧
      m'.position = .sleeping := by
    simp [Machine.run, LocalMonitor.step, hpos, hpoll, hvalues, halerts, deliver]
  refine ⟨⟨m.poller.states input, [name], []⟩, m', ⟨_, _, hrun, rfl, hpos, hpos', rfl, rfl, ?_⟩,
    ?_⟩
  · rw [keys_states, hkeys]
    rfl
  · rw [IterationRecord.status, m.poller.get?_states input (by simp [hkeys]), Option.map_some,
      hstatus]
    rfl

/-- UP iterations after the recovery are all stable. -/
theorem PollLoop.stableFor (hloop : PollLoop (init config telegram) rs m)
    (hstart : StableFor m name 0) (h : PollLoop m us m₁) (hup : ∀ u ∈ us, u.status name = .up) :
    StableFor m₁ name us.length := by
  induction h with
  | start => exact hstart
  | @iterate us m₁ m₂ u hbefore hiterates ih =>
      have hprocessed := (hloop.append hbefore).processed_eq hsingle hiterates
      have hprevious := ih fun v hv ↦ hup v (by simp [hv])
      rw [List.length_append, List.length_singleton]
      exact hprevious.iterate hiterates (by simp [hprocessed]) (hup u (by simp))

theorem exists_up_iterations (hloop : PollLoop (init config telegram) rs m)
    (hpos : m.position = .sleeping) (hstart : StableFor m name 0) {input : PollInput}
    (hactive : m.poller.activeWan (getNextHop input.nextHop) = some name) (n : ℕ) :
    ∃ us m', PollLoop m us m' ∧ us.length = n ∧ (∀ u ∈ us, u.status name = .up) ∧
      m'.position = .sleeping := by
  induction n with
  | zero => exact ⟨[], m, .start, rfl, by simp, hpos⟩
  | succ n ih =>
      obtain ⟨us, m', h, hlength, hup, hpos'⟩ := ih
      have hgateways' := (hloop.append h).levelsFollow.gateways
      have hlevel := (hloop.stableFor hsingle hstart h hup).level
      have hactive' : m'.poller.activeWan (getNextHop input.nextHop) = some name := by
        rw [activeWan_congr (hgateways'.trans hloop.levelsFollow.gateways.symm), hactive]
      obtain ⟨u, m₂, hiterates, hu⟩ := exists_up_iteration hsingle hpos' hgateways' hlevel hactive'
      refine ⟨us ++ [u], m₂, .iterate h hiterates, ?_, ?_, ?_⟩
      · rw [List.length_append, hlength, List.length_singleton]
      · intro v hv
        rcases List.mem_append.mp hv with hv | hv
        · exact hup v hv
        · rwa [List.mem_singleton.mp hv]
      · obtain ⟨_, _, _, _, _, hslept, _⟩ := hiterates
        exact hslept

end OneWan

/-- After a recovery the alert state lasts until the configured number of further UP
polls in every continuation exactly if that number is five. -/
theorem recovery_threshold_applied_iff (config : LocalConfig) (telegram : TelegramNotifier)
    {name : String} (hsingle : config.router.wanGateways.keys = [name])
    {rs : List IterationRecord} {r : IterationRecord} {m m₁ : LocalMonitor}
    (hloop : PollLoop (init config telegram) rs m) (hiterates : Iterates m r m₁)
    (hrecovered : name ++ " RECOVERED" ∈ r.titles) :
    (∀ us m₂, PollLoop m₁ us m₂ → (∀ u ∈ us, u.status name = .up) →
        (m₂.alertEngine.shouldUseAlertInterval = true ↔
          (us.length : ℤ) < config.polling.recoveryThreshold)) ↔
      config.polling.recoveryThreshold = 5 := by
  have hloop₁ : PollLoop (init config telegram) (rs ++ [r]) m₁ := .iterate hloop hiterates
  have hstart := hloop.stableFor_recovered hsingle hiterates hrecovered
  have hflag : ∀ us m₂, PollLoop m₁ us m₂ → (∀ u ∈ us, u.status name = .up) →
      (m₂.alertEngine.shouldUseAlertInterval = true ↔ us.length < 5) :=
    fun us m₂ h hup ↦
      (hloop₁.stableFor hsingle hstart h hup).flag_iff hsingle (hloop₁.append h)
  constructor
  · intro happlied
    -- A continuation as long as the smaller of the two numbers tells them apart.
    have hpos : m₁.position = .sleeping := by
      obtain ⟨_, _, _, _, _, hslept, _⟩ := hiterates
      exact hslept
    have hmem : name ∈ r.processed := by simp [hloop.processed_eq hsingle hiterates]
    have hup := (hiterates.alertState_of_mem hmem).2.1.symm.trans hstart.level
    obtain ⟨input, hactive⟩ := hiterates.exists_input_of_up hmem hup
    rw [← activeWan_congr (hloop₁.levelsFollow.gateways.trans
      hloop.levelsFollow.gateways.symm)] at hactive
    obtain ⟨us, m₂, h, hlength, hup, -⟩ := exists_up_iterations hsingle hloop₁ hpos hstart
      hactive (min config.polling.recoveryThreshold.toNat 5)
    have hboth := (hflag us m₂ h hup).symm.trans (happlied us m₂ h hup)
    omega
  · intro hfive us m₂ h hup
    rw [hflag us m₂ h hup, hfive]
    omega

def singleWan : RouterConfig where
  host := "192.168.0.1"
  wanGateways := ⟨[("WAN1", "10.0.0.1")], by decide⟩

def threshold (recoveryThreshold : ℤ) : LocalConfig where
  router := singleWan
  polling := { recoveryThreshold := recoveryThreshold }

/-- An iteration without an answer, which alerts the WAN as DOWN. -/
def downIteration : List MonitorEvent :=
  [.startPoll, .polled Round.lost.input, .process 0, .sendDone .delivered, .finish]

/-- An iteration that reports the WAN as UP again. -/
def recoveredIteration : List MonitorEvent :=
  [.startPoll, .polled (Round.answering "10.0.0.1").input, .process 0, .sendDone .delivered,
    .finish]

def upIteration : List MonitorEvent :=
  [.startPoll, .polled (Round.answering "10.0.0.1").input, .process 0, .finish]

/-- A threshold of three is not the one applied after a DOWN and a RECOVERED. -/
theorem recovery_threshold_three :
    ∃ r m r' m₁, PollLoop (init (threshold 3) {}) [r] m ∧ r.titles = ["WAN1 DOWN"] ∧
      Iterates m r' m₁ ∧ r'.titles = ["WAN1 RECOVERED"] ∧
      ¬∀ us m₂, PollLoop m₁ us m₂ → (∀ u ∈ us, u.status "WAN1" = .up) →
        (m₂.alertEngine.shouldUseAlertInterval = true ↔ (us.length : ℤ) < 3) := by
  obtain ⟨r, m, hdown, htitles, r', m₁, hrecovered, htitles'⟩ : ∃ r m,
      Iterates (init (threshold 3) {}) r m ∧ r.titles = ["WAN1 DOWN"] ∧
        ∃ r' m₁, Iterates m r' m₁ ∧ r'.titles = ["WAN1 RECOVERED"] :=
    ⟨⟨_, _, _⟩, _, ⟨downIteration, _, rfl, rfl, rfl, rfl, rfl, rfl, rfl⟩, rfl, ⟨_, _, _⟩, _,
      ⟨recoveredIteration, _, rfl, rfl, rfl, rfl, rfl, rfl, rfl⟩, rfl⟩
  have hloop : PollLoop (init (threshold 3) {}) [r] m := .iterate .start hdown
  have happlied := recovery_threshold_applied_iff (threshold 3) {} rfl hloop hrecovered
    (List.mem_of_mem_head? (by rw [htitles']; rfl))
  exact ⟨r, m, r', m₁, hloop, htitles, hrecovered, htitles',
    fun h ↦ absurd (happlied.mp h) (by decide)⟩

/-- With a threshold of three the alert state outlasts three UP polls. -/
theorem recovery_outlasts_threshold :
    ∃ m out, Machine.run step (init (threshold 3) {})
        (downIteration ++ recoveredIteration ++ upIteration ++ upIteration ++ upIteration) =
          some (m, out) ∧
      (sends out).map (fun p ↦ p.1.title) = ["WAN1 DOWN", "WAN1 RECOVERED"] ∧
      (lastPolled out).values.map WANState.status = [.up] ∧
      m.config.polling.recoveryThreshold = 3 ∧
      m.alertEngine.shouldUseAlertInterval = true :=
  ⟨_, _, rfl, rfl, rfl, rfl, rfl⟩

end LocalMonitor

end WanRouter
