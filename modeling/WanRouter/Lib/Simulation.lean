import WanRouter.Lib.Machine
import WanRouter.Lib.Mealy

/-!
# Simulations of machines

Every step of one machine is answered by some steps of another, which ones may
depend on the state.  The rules lift what is proved of one step to runs.  With
steps that are answered by none, a run of the second machine is the run of the
first without these steps.
-/

namespace Machine

variable {σ τ ε δ ω χ α ο : Type*}

/-- What a run translates to. -/
def translated (step : σ → ε → Option (σ × List ω)) (translate : σ → ε → List δ) (s : σ) :
    List ε → List δ
  | [] => []
  | e :: es =>
      translate s e ++ (step s e).elim [] fun p ↦ translated step translate p.1 es

section Translations

variable (step : σ → ε → Option (σ × List ω)) (translate : σ → ε → List δ)

@[simp] theorem translated_nil (s : σ) : translated step translate s [] = [] := rfl

theorem translated_cons {s t : σ} {e : ε} {o : List ω} (hstep : step s e = some (t, o))
    (es : List ε) :
    translated step translate s (e :: es) = translate s e ++ translated step translate t es := by
  rw [translated, hstep, Option.elim_some]

theorem translated_append {s t : σ} {es : List ε} {out : List ω}
    (hrun : run step s es = some (t, out)) (es' : List ε) :
    translated step translate s (es ++ es') =
      translated step translate s es ++ translated step translate t es' := by
  induction es generalizing s out with
  | nil =>
      cases hrun
      rfl
  | cons e es ih =>
      obtain ⟨m, o, o', hstep, hrest, rfl⟩ := (run_cons_eq_some step).mp hrun
      rw [List.cons_append, translated_cons step translate hstep,
        translated_cons step translate hstep, ih hrest, List.append_assoc]

theorem translated_concat {s m t : σ} {es : List ε} {e : ε} {out o : List ω}
    (hrun : run step s es = some (m, out)) (hstep : step m e = some (t, o)) :
    translated step translate s (es ++ [e]) =
      translated step translate s es ++ translate m e := by
  rw [translated_append step translate hrun, translated_cons step translate hstep,
    translated_nil, List.append_nil]

theorem filterMap_translated (g : δ → Option α) (s : σ) (es : List ε) :
    (translated step translate s es).filterMap g =
      translated step (fun s e ↦ (translate s e).filterMap g) s es := by
  induction es generalizing s with
  | nil => rfl
  | cons e es ih =>
      rw [translated, translated, List.filterMap_append]
      cases hstep : step s e with
      | none => rfl
      | some q => exact congrArg _ (ih q.1)

theorem translated_sublist {f : ε → List δ} (hf : ∀ s e, (translate s e).Sublist (f e)) (s : σ)
    (es : List ε) : (translated step translate s es).Sublist (es.flatMap f) := by
  induction es generalizing s with
  | nil => exact List.Sublist.refl _
  | cons e es ih =>
      rw [translated, List.flatMap_cons]
      apply (hf s e).append
      cases hstep : step s e with
      | none => exact List.nil_sublist _
      | some q => exact ih q.1

/-- What a run translates to comes from its steps. -/
theorem exists_step_of_mem_translated {s t : σ} {es : List ε} {out : List ω}
    (hrun : run step s es = some (t, out)) {d : δ} (hd : d ∈ translated step translate s es) :
    ∃ pre e post m o, es = pre ++ e :: post ∧ run step s pre = some (m, o) ∧
      d ∈ translate m e := by
  refine run_induction step (P := fun es _ _ ↦ d ∈ translated step translate s es →
    ∃ pre e post m o, es = pre ++ e :: post ∧ run step s pre = some (m, o) ∧
      d ∈ translate m e) (fun h ↦ (List.not_mem_nil h).elim) ?_ es t out hrun hd
  intro es m out e t o hbefore ih hstep hd
  rw [translated_concat step translate hbefore hstep] at hd
  rcases List.mem_append.mp hd with hd | hd
  · obtain ⟨pre, e', post, m', o', rfl, hpre, hmem⟩ := ih hd
    exact ⟨pre, e', post ++ [e], m', o', by simp, hpre, hmem⟩
  · exact ⟨es, e, [], m, out, rfl, hbefore, hd⟩

/-- A translation that does not read the state. -/
theorem translated_of_const {f : ε → List δ} (hf : ∀ s e, translate s e = f e) {s t : σ}
    {es : List ε} {out : List ω} (hrun : run step s es = some (t, out)) :
    translated step translate s es = es.flatMap f := by
  induction es generalizing s out with
  | nil => rfl
  | cons e es ih =>
      obtain ⟨m, o, o', hstep, hrest, rfl⟩ := (run_cons_eq_some step).mp hrun
      rw [translated_cons step translate hstep, ih hrest, hf, List.flatMap_cons]

end Translations

/-- If every step is answered in a related state, by steps that show the same and end in
related states, then so is every run. -/
theorem run_simulation {step : σ → ε → Option (σ × List ω)}
    {step' : τ → δ → Option (τ × List χ)} {R : σ → τ → Prop} {translate : σ → ε → List δ}
    {seen : ω → Option α} {seen' : χ → Option α}
    (hstep : ∀ s s' e t o, R s s' → step s e = some (t, o) →
      ∃ t' o', run step' s' (translate s e) = some (t', o') ∧ R t t' ∧
        o.filterMap seen = o'.filterMap seen')
    {s t : σ} {s' : τ} {es : List ε} {out : List ω} (hs : R s s')
    (hrun : run step s es = some (t, out)) :
    ∃ t' out', run step' s' (translated step translate s es) = some (t', out') ∧ R t t' ∧
      out.filterMap seen = out'.filterMap seen' := by
  induction es generalizing s s' out with
  | nil =>
      cases hrun
      exact ⟨s', [], rfl, hs, rfl⟩
  | cons e es ih =>
      obtain ⟨m, o, o₁, hfirst, hrest, rfl⟩ := (run_cons_eq_some step).mp hrun
      obtain ⟨m', o', hanswer, hm, hsame⟩ := hstep s s' e m o hs hfirst
      obtain ⟨t', out', hrun', ht, hsame'⟩ := ih hm hrest
      refine ⟨t', o' ++ out', ?_, ht, ?_⟩
      · rw [translated_cons step translate hfirst, run_append_eq_some]
        exact ⟨m', o', out', hanswer, hrun', rfl⟩
      · rw [List.filterMap_append, List.filterMap_append, hsame, hsame']

/-- What a run of a whole is for one of its parts, whose outputs are among its own. -/
theorem run_component {step : σ → ε → Option (σ × List ω)} {step' : τ → δ → Option (τ × List χ)}
    {R : σ → τ → Prop} {f : ε → List δ} {seen : ω → Option χ}
    (hstep : ∀ s s' e t o, R s s' → step s e = some (t, o) →
      ∃ t', run step' s' (f e) = some (t', o.filterMap seen) ∧ R t t')
    {s t : σ} {s' : τ} {es : List ε} {out : List ω} (hs : R s s')
    (hrun : run step s es = some (t, out)) :
    ∃ t', run step' s' (es.flatMap f) = some (t', out.filterMap seen) ∧ R t t' := by
  have hsimulated : ∃ t' out', run step' s' (translated step (fun _ e ↦ f e) s es) =
      some (t', out') ∧ R t t' ∧ out.filterMap seen = out'.filterMap some := by
    apply run_simulation ?_ hs hrun
    intro s s' e t o hR hstep'
    obtain ⟨t', hanswer, hkept⟩ := hstep s s' e t o hR hstep'
    exact ⟨t', _, hanswer, hkept, List.filterMap_some.symm⟩
  obtain ⟨t', out', hrun', hkept, hsame⟩ := hsimulated
  rw [List.filterMap_some] at hsame
  rw [translated_of_const step (fun _ e ↦ f e) (fun _ _ ↦ rfl) hrun] at hrun'
  exact ⟨t', hsame ▸ hrun', hkept⟩

/-- Events that keep the state related and show nothing can be left out of a run. -/
theorem run_erase {step : σ → ε → Option (σ × List ω)} {R : σ → σ → Prop} {hidden : ε → Bool}
    {seen : ω → Option α}
    (hhidden : ∀ s s' e t o, hidden e = true → R s s' → step s e = some (t, o) →
      R t s' ∧ o.filterMap seen = [])
    (hvisible : ∀ s s' e t o, hidden e = false → R s s' → step s e = some (t, o) →
      ∃ t' o', step s' e = some (t', o') ∧ R t t' ∧ o.filterMap seen = o'.filterMap seen)
    {s t s' : σ} {es : List ε} {out : List ω} (hs : R s s')
    (hrun : run step s es = some (t, out)) :
    ∃ t' out', run step s' (es.filter fun e ↦ !hidden e) = some (t', out') ∧ R t t' ∧
      out.filterMap seen = out'.filterMap seen := by
  have hfilter : ∀ es : List ε, (es.flatMap fun e ↦ if hidden e then [] else [e]) =
      es.filter fun e ↦ !hidden e := by
    intro es
    induction es with
    | nil => rfl
    | cons e es ih => cases he : hidden e <;> simp [he, ih]
  rw [← hfilter, ← translated_of_const step (fun _ e ↦ if hidden e then [] else [e])
    (fun _ _ ↦ rfl) hrun]
  apply run_simulation ?_ hs hrun
  intro s s' e t o hR hstep
  cases he : hidden e with
  | true =>
      obtain ⟨hkept, hquiet⟩ := hhidden s s' e t o he hR hstep
      refine ⟨s', [], ?_, hkept, by rw [hquiet, List.filterMap_nil]⟩
      rw [if_pos rfl, run_nil]
  | false =>
      obtain ⟨t', o', hstep', hkept, hsame⟩ := hvisible s s' e t o he hR hstep
      refine ⟨t', o', ?_, hkept, hsame⟩
      rw [if_neg Bool.false_ne_true, run_singleton]
      exact hstep'

/-- A machine whose events stand for those of another. -/
theorem run_map {step : σ → δ → Option (σ × List ω)} (f : ε → δ) (s : σ) (es : List ε) :
    run (fun s e ↦ step s (f e)) s es = run step s (es.map f) := by
  induction es generalizing s with
  | nil => rfl
  | cons e es ih => simp only [run, List.map_cons, ih]

/-- A view of the state that every step moves like a total machine. -/
theorem view_run {step : σ → ε → Option (σ × List ω)} {call : τ → δ → τ × ο} {view : σ → τ}
    {translate : σ → ε → List δ}
    (hstep : ∀ s e t o, step s e = some (t, o) →
      view t = Mealy.run call (view s) (translate s e))
    {s t : σ} {es : List ε} {out : List ω} (hrun : run step s es = some (t, out)) :
    view t = Mealy.run call (view s) (translated step translate s es) := by
  induction es generalizing s out with
  | nil =>
      cases hrun
      rfl
  | cons e es ih =>
      obtain ⟨m, o, o', hfirst, hrest, rfl⟩ := (run_cons_eq_some step).mp hrun
      rw [translated_cons step translate hfirst, Mealy.run_append, ← hstep s e m o hfirst,
        ih hrest]

end Machine
