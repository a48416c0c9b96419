import Mathlib.Data.List.Induction

/-!
# Machines with enabled steps and outputs

`step` answers an event with the next state and a list of outputs, or with
`none` when the event is not enabled.  A run is a list of enabled events.  The
invariant rule sees the events and the outputs of the run so far.
-/

namespace Machine

variable {σ ε ω : Type*}

def run (step : σ → ε → Option (σ × List ω)) (s : σ) : List ε → Option (σ × List ω)
  | [] => some (s, [])
  | e :: es =>
      (step s e).bind fun p ↦ (run step p.1 es).map fun q ↦ (q.1, p.2 ++ q.2)

section Runs

variable (step : σ → ε → Option (σ × List ω))

@[simp] theorem run_nil (s : σ) : run step s [] = some (s, []) := rfl

theorem run_cons_eq_some {s t : σ} {e : ε} {es : List ε} {out : List ω} :
    run step s (e :: es) = some (t, out) ↔
      ∃ m o o', step s e = some (m, o) ∧ run step m es = some (t, o') ∧ out = o ++ o' := by
  simp only [run, Option.bind_eq_some_iff, Option.map_eq_some_iff, Prod.exists, Prod.mk.injEq]
  constructor
  · rintro ⟨m, o, hstep, t', o', hrun, rfl, rfl⟩
    exact ⟨m, o, o', hstep, hrun, rfl⟩
  · rintro ⟨m, o, o', hstep, hrun, rfl⟩
    exact ⟨m, o, hstep, t, o', hrun, rfl, rfl⟩

theorem run_append_eq_some {s t : σ} {es es' : List ε} {out : List ω} :
    run step s (es ++ es') = some (t, out) ↔
      ∃ m o o', run step s es = some (m, o) ∧ run step m es' = some (t, o') ∧
        out = o ++ o' := by
  induction es generalizing s out with
  | nil => simp
  | cons e es ih =>
      simp only [List.cons_append, run_cons_eq_some, ih]
      constructor
      · rintro ⟨m, o, -, hstep, ⟨m', o', o'', hrun, hrun', rfl⟩, rfl⟩
        exact ⟨m', o ++ o', o'', ⟨m, o, o', hstep, hrun, rfl⟩, hrun', by simp⟩
      · rintro ⟨m', -, o'', ⟨m, o, o', hstep, hrun, rfl⟩, hrun', rfl⟩
        exact ⟨m, o, o' ++ o'', hstep, ⟨m', o', o'', hrun, hrun', rfl⟩, by simp⟩

theorem run_singleton (s : σ) (e : ε) : run step s [e] = step s e := by
  cases hstep : step s e <;> simp [run, hstep]

/-- A property of runs that holds of the empty run and that every further step
keeps holds of every run. -/
theorem run_induction {s : σ} {P : List ε → σ → List ω → Prop} (hnil : P [] s [])
    (hsnoc : ∀ es m out e t o, run step s es = some (m, out) → P es m out →
      step m e = some (t, o) → P (es ++ [e]) t (out ++ o)) :
    ∀ es t out, run step s es = some (t, out) → P es t out := by
  intro es
  induction es using List.reverseRecOn with
  | nil =>
      intro t out h
      cases h
      exact hnil
  | append_singleton es e ih =>
      intro t out h
      obtain ⟨m, o, o', hrun, hlast, rfl⟩ := (run_append_eq_some step).mp h
      rw [run_singleton] at hlast
      exact hsnoc es m o e t o' hrun (ih m o hrun) hlast

/-- A view of the state that no step changes is the same after every run. -/
theorem run_frame {τ : Type*} (view : σ → τ)
    (hstep : ∀ m e t o, step m e = some (t, o) → view t = view m)
    {s t : σ} {es : List ε} {out : List ω} (hrun : run step s es = some (t, out)) :
    view t = view s := by
  refine run_induction step (P := fun _ t _ ↦ view t = view s) rfl ?_ es t out hrun
  intro es m out e t o _ hm hlast
  exact (hstep m e t o hlast).trans hm

/-- Where a run of one more output, or of one more step, can be split. -/
theorem concat_eq_append_cons {α : Type*} {l pre post : List α} {x y : α}
    (h : l ++ [x] = pre ++ y :: post) :
    (post = [] ∧ pre = l ∧ y = x) ∨ ∃ post', post = post' ++ [x] ∧ l = pre ++ y :: post' := by
  rcases List.eq_nil_or_concat post with rfl | ⟨post', z, rfl⟩
  · obtain ⟨hpre, hlast⟩ := List.append_inj' h rfl
    exact Or.inl ⟨rfl, hpre.symm, (List.singleton_inj.mp hlast).symm⟩
  · rw [List.concat_eq_append, ← List.cons_append, ← List.append_assoc] at h
    obtain ⟨hpre, hlast⟩ := List.append_inj' h rfl
    refine Or.inr ⟨post', ?_, hpre⟩
    rw [List.concat_eq_append, List.singleton_inj.mp hlast]

/-- An output of a run is an output of one of its steps. -/
theorem exists_step_of_mem_run {s t : σ} {es : List ε} {out : List ω}
    (hrun : run step s es = some (t, out)) {x : ω} (hx : x ∈ out) :
    ∃ pre e post m o m' o', es = pre ++ e :: post ∧ run step s pre = some (m, o) ∧
      step m e = some (m', o') ∧ x ∈ o' := by
  refine run_induction step (P := fun es _ out ↦ x ∈ out →
    ∃ pre e post m o m' o', es = pre ++ e :: post ∧ run step s pre = some (m, o) ∧
      step m e = some (m', o') ∧ x ∈ o') (by simp) ?_ es t out hrun hx
  intro es m out e t o hbefore ih hstep hx
  rcases List.mem_append.mp hx with hx | hx
  · obtain ⟨pre, e', post, m', o₁, m'', o₂, rfl, hrun, hstep', hmem⟩ := ih hx
    exact ⟨pre, e', post ++ [e], m', o₁, m'', o₂, by simp, hrun, hstep', hmem⟩
  · exact ⟨es, e, [], m, out, t, o, rfl, hbefore, hstep, hx⟩

/-- Every event of the list is admitted in the state in which the run takes it. -/
def Along (ok : σ → ε → Prop) : σ → List ε → Prop
  | _, [] => True
  | s, e :: es => ok s e ∧ ∀ t o, step s e = some (t, o) → Along ok t es

theorem along_cons_iff {ok : σ → ε → Prop} {s : σ} {e : ε} {es : List ε} :
    Along step ok s (e :: es) ↔
      ok s e ∧ (step s e).elim True fun p ↦ Along step ok p.1 es := by
  rw [Along]
  apply and_congr_right
  intro _
  cases step s e with
  | none => simp
  | some p =>
      constructor
      · exact fun h ↦ h p.1 p.2 rfl
      · rintro h t o ⟨⟩
        exact h

instance decidableAlong {ok : σ → ε → Prop} [∀ s e, Decidable (ok s e)] :
    ∀ s es, Decidable (Along step ok s es)
  | _, [] => .isTrue trivial
  | s, e :: es =>
      have : Decidable ((step s e).elim True fun p ↦ Along step ok p.1 es) :=
        match step s e with
        | none => .isTrue trivial
        | some p => decidableAlong p.1 es
      decidable_of_iff _ (along_cons_iff step).symm

theorem along_append {ok : σ → ε → Prop} {s t : σ} {es es' : List ε} {out : List ω}
    (hrun : run step s es = some (t, out)) :
    Along step ok s (es ++ es') ↔ Along step ok s es ∧ Along step ok t es' := by
  induction es generalizing s out with
  | nil =>
      cases hrun
      exact (and_iff_right trivial).symm
  | cons e es ih =>
      obtain ⟨m, o, o', hfirst, hrest, rfl⟩ := (run_cons_eq_some step).mp hrun
      rw [List.cons_append, Along, Along, and_assoc]
      apply and_congr_right
      intro _
      constructor
      · intro h
        obtain ⟨hes, hes'⟩ := (ih hrest).mp (h m o hfirst)
        refine ⟨?_, hes'⟩
        intro t' o₁ hstep
        cases hfirst.symm.trans hstep
        exact hes
      · rintro ⟨hes, hes'⟩ t' o₁ hstep
        cases hfirst.symm.trans hstep
        exact (ih hrest).mpr ⟨hes m o hfirst, hes'⟩

/-- The rule for runs all of whose steps are admitted. -/
theorem run_induction_along {ok : σ → ε → Prop} {s : σ} {P : List ε → σ → List ω → Prop}
    (hnil : P [] s [])
    (hsnoc : ∀ es m out e t o, run step s es = some (m, out) → P es m out → ok m e →
      step m e = some (t, o) → P (es ++ [e]) t (out ++ o))
    {es : List ε} {t : σ} {out : List ω} (hrun : run step s es = some (t, out))
    (hok : Along step ok s es) : P es t out := by
  refine run_induction step (P := fun es t out ↦ Along step ok s es → P es t out)
    (fun _ ↦ hnil) ?_ es t out hrun hok
  intro es m out e t o hbefore ih hstep hok
  obtain ⟨hes, hlast⟩ := (along_append step hbefore).mp hok
  exact hsnoc es m out e t o hbefore (ih hes) hlast.1 hstep

/-- An invariant of states and outputs that every admitted step keeps. -/
theorem run_invariant {ok : σ → ε → Prop} {I : σ → List ω → Prop}
    (hstep : ∀ m out e t o, ok m e → I m out → step m e = some (t, o) → I t (out ++ o))
    {s : σ} {es : List ε} {t : σ} {out₀ out : List ω} (hs : I s out₀)
    (hrun : run step s es = some (t, out)) (hok : Along step ok s es) : I t (out₀ ++ out) := by
  induction es generalizing s out₀ out with
  | nil =>
      cases hrun
      simpa using hs
  | cons e es ih =>
      obtain ⟨m, o, o', hfirst, hrest, rfl⟩ := (run_cons_eq_some step).mp hrun
      rw [← List.append_assoc]
      exact ih (hstep s out₀ e m o hok.1 hs hfirst) hrest (hok.2 m o hfirst)

end Runs

end Machine
