import WanRouter.Remote.SentinelRuns

/-!
# Evaluations whose send raises

The RECOVERED branch changes no flag before its send, so an exception there
leaves the sentinel as it was.  The LOST branch has set the flag of the store
already, and nothing but a record clears it.
-/

namespace WanRouter

open HeartbeatStore RemoteAlertEngine SentinelEvent

namespace RemoteSentinel

/-- An evaluation of `s` without a record, from its first clock readings to the
exception that its send raises. -/
structure RaisingEvaluation (s : RemoteSentinel) (now now' : ℤ) (t : RemoteSentinel)
    (alert : AlertEvent) (now'' : ℤ) (probe : List SentinelEvent) (reply : BotReply) :
    Prop where
  probe_eq : probe = [] ∨ ∃ result n n', probe = [.probed result n n']
  run : Machine.run step s (.evaluate now now' now'' :: (probe ++ [.sent reply])) =
    some (t, [alert])
  raised : s.telegram.sendAlert alert reply = .raised

/-- The evaluation hands over an alert with this title, whatever the probe answers. -/
def Attempts (s : RemoteSentinel) (now now' : ℤ) (title : String) : Prop :=
  ∀ now'' result n n', ∃ es, (es = [.evaluate now now' now''] ∨
      es = [.evaluate now now' now'', .probed result n n']) ∧
    ∃ t alert, Machine.run step s es = some (t, [alert]) ∧ alert.title = title

/-- Both flags are as before, and the next evaluation under the same missing status
attempts the same alert. -/
def Undone (s : RemoteSentinel) (now now' : ℤ) (t : RemoteSentinel) (title : String) : Prop :=
  t.store.alertedMissing = s.store.alertedMissing ∧ t.wasMissing = s.wasMissing ∧
    ∀ u u', t.store.isMissing u = s.store.isMissing now →
      t.store.isMissing u' = s.store.isMissing now' → t.Attempts u u' title

variable {s t : RemoteSentinel} {now now' now'' : ℤ} {alert : AlertEvent}
  {probe : List SentinelEvent} {reply : BotReply}

/-- A raising evaluation is in one of the two branches. -/
theorem RaisingEvaluation.cases
    (h : RaisingEvaluation s now now' t alert now'' probe reply) :
    (s.store.isMissing now = true ∧ s.store.alertedMissing = false ∧
      t = { s with store := { s.store with alertedMissing := true }, position := .sleeping }) ∨
    (s.position = .sleeping ∧ (s.store.isMissing now = false ∨ s.store.alertedMissing = true) ∧
      s.wasMissing = true ∧ s.store.isMissing now' = false ∧ alert.title = recoveredTitle ∧
      t = s) := by
  obtain ⟨m, o, o', hfirst, hrest, hout⟩ := (Machine.run_cons_eq_some step).mp h.run
  have hraised : ∀ a, s.telegram.sendAlert a reply = .raised := fun _ ↦ h.raised
  cases transition_of_step hfirst with
  | decideLost _ _ _ hpos hmissing halerted =>
      refine Or.inl ⟨hmissing, halerted, ?_⟩
      rcases h.probe_eq with rfl | ⟨result, n, n', rfl⟩
      · simp [Machine.run, step] at hrest
      · simp [Machine.run, step, hraised, finishSend] at hrest
        exact hrest.1.symm
  | handRecovered _ _ _ hpos hquiet hwas hmissing =>
      refine Or.inr ⟨hpos, hquiet, hwas, hmissing, ?_, ?_⟩
      · have halert : alert = createMonitorRecoveredAlert now'' := by simp_all
        rw [halert]
        rfl
      · rcases h.probe_eq with rfl | ⟨result, n, n', rfl⟩
        · simp only [List.nil_append, Machine.run_singleton, step, hraised, finishSend, ← hpos]
            at hrest
          cases hrest
          rfl
        · simp [Machine.run, step] at hrest
  | idle _ _ _ hpos hquiet hidle =>
      rcases h.probe_eq with rfl | ⟨result, n, n', rfl⟩ <;>
        simp [Machine.run, step, hpos] at hrest

/-- A LOST alert whose send raised is not followed by any alert before a record. -/
theorem silent_after_raised {es : List SentinelEvent} {u : RemoteSentinel}
    {out : List AlertEvent} (hpos : t.position = .sleeping)
    (hmissing : t.store.isMissing now = true) (halerted : t.store.alertedMissing = true)
    (hrun : Machine.run step t es = some (u, out)) :
    (∀ e ∈ es, e.recordedAt? = none) → (∀ r ∈ es.flatMap readings, now ≤ r) →
      u = t ∧ out = [] := by
  refine Machine.run_induction step (P := fun es u out ↦
    (∀ e ∈ es, e.recordedAt? = none) → (∀ r ∈ es.flatMap readings, now ≤ r) →
      u = t ∧ out = []) ?_ ?_ es u out hrun
  · exact fun _ _ ↦ ⟨rfl, rfl⟩
  · intro es m out e v o _ ih hstep hrecords hreadings
    obtain ⟨rfl, rfl⟩ := ih (fun e he ↦ hrecords e (by simp [he]))
      fun r hr ↦ hreadings r (by simp_all)
    have hrecord := hrecords e (by simp)
    cases transition_of_step hstep with
    | record n payload => simp [recordedAt?] at hrecord
    | decideLost _ _ _ _ _ hclear => simp [halerted] at hclear
    | handRecovered n n' n'' _ _ _ hpresent =>
        have hlater := m.store.isMissing_of_le hmissing (hreadings n' (by simp [readings]))
        simp [hlater] at hpresent
    | idle n n' n'' _ _ _ => exact ⟨rfl, rfl⟩
    | handLost _ _ _ hprobing => simp [hpos] at hprobing
    | probeRaised hprobing => simp [hpos] at hprobing
    | sentLost _ _ hsending => simp [hpos] at hsending
    | sentRecovered _ _ hsending => simp [hpos] at hsending

theorem attempts_recovered (hpos : s.position = .sleeping)
    (hquiet : s.store.isMissing now = false ∨ s.store.alertedMissing = true)
    (hwas : s.wasMissing = true) (hmissing : s.store.isMissing now' = false) :
    s.Attempts now now' recoveredTitle := by
  intro now'' _ _ _
  refine ⟨_, Or.inl rfl, ?_⟩
  have hkeep : s.store.shouldAlertMissing now = (s.store, false) := by
    rcases hquiet with h | h <;> simp [shouldAlertMissing, h]
  have hstep : step s (.evaluate now now' now'') =
      some ({ s with position := .sendingRecovered (createMonitorRecoveredAlert now'') },
        [createMonitorRecoveredAlert now'']) := by
    simp [step, hpos, evaluate, hkeep, hwas, hmissing]
  rw [Machine.run_singleton, hstep]
  exact ⟨_, _, rfl, rfl⟩

/-- A raising send leaves the sentinel as it was exactly in the RECOVERED branch.
After one in the LOST branch no alert is handed over until a heartbeat is recorded. -/
theorem raising_send_undone_iff
    (h : RaisingEvaluation s now now' t alert now'' probe reply) :
    (s.Undone now now' t alert.title ↔
      ¬(s.store.isMissing now = true ∧ s.store.alertedMissing = false)) ∧
    (s.store.isMissing now = true ∧ s.store.alertedMissing = false →
      ∀ es u out, Machine.run step t es = some (u, out) →
        (∀ e ∈ es, e.recordedAt? = none) → (∀ r ∈ es.flatMap readings, now ≤ r) → out = []) := by
  rcases h.cases with ⟨hmissing, halerted, ht⟩ | ⟨hpos, hquiet, hwas, hpresent, htitle, ht⟩
  · constructor
    · refine iff_of_false ?_ (not_not.mpr ⟨hmissing, halerted⟩)
      rintro ⟨hflag, -, -⟩
      simp [ht, halerted] at hflag
    · intro _ es u out hrun hrecords hreadings
      have hlater : t.store.isMissing now = true := by rw [ht, ← hmissing]; rfl
      exact (silent_after_raised (by rw [ht]) hlater (by rw [ht]) hrun hrecords hreadings).2
  · have hbranch : ¬(s.store.isMissing now = true ∧ s.store.alertedMissing = false) := by
      rcases hquiet with h | h <;> simp [h]
    refine ⟨iff_of_true ?_ hbranch, fun h ↦ absurd h hbranch⟩
    rw [ht, htitle]
    refine ⟨rfl, rfl, ?_⟩
    intro u u' hu hu'
    exact attempts_recovered hpos (hu ▸ hquiet) hwas (hu'.trans hpresent)

theorem raising_first_evaluation :
    ∃ t, RaisingEvaluation (init {} {}) 0 0 t ((init {} {}).lostAlert .disabled 0 0) 0
        [.probed .disabled 0 0] .otherError ∧
      ((init {} {}).Undone 0 0 t lostTitle ↔
        ¬((init {} {}).store.isMissing 0 = true ∧
          (init {} {}).store.alertedMissing = false)) ∧
      ¬(init {} {}).Undone 0 0 t lostTitle := by
  have h : RaisingEvaluation (init {} {}) 0 0
      { init {} {} with store := { (init {} {}).store with alertedMissing := true } }
      ((init {} {}).lostAlert .disabled 0 0) 0 [.probed .disabled 0 0] .otherError :=
    ⟨Or.inr ⟨.disabled, 0, 0, rfl⟩, rfl, rfl⟩
  have hundone := (raising_send_undone_iff h).1
  exact ⟨_, h, hundone, fun hu ↦ hundone.mp hu ⟨rfl, rfl⟩⟩

/-- The first evaluation decides LOST and its send raises: the flag stays set, and
the next evaluation, ten seconds later, hands nothing over. -/
theorem raised_lost_not_repeated :
    ∃ t, ∃ alert : AlertEvent, Machine.run step (init {} {})
        [.evaluate 0 0 0, .probed .disabled 0 0, .sent .otherError] = some (t, [alert]) ∧
      alert.title = lostTitle ∧
      (init {} {}).store.alertedMissing = false ∧ t.store.alertedMissing = true ∧
      t.store.isMissing 10000000 = (init {} {}).store.isMissing 0 ∧
      Machine.run step t [.evaluate 10000000 10000000 10000000] = some (t, []) :=
  ⟨_, _, rfl, rfl, rfl, rfl, rfl, rfl⟩

end RemoteSentinel

end WanRouter
