import Mathlib.Data.List.Basic

/-!
# Total machines with one output per input

`step` maps a state and an input to the next state and an output.  `run` is the
state after a list of inputs and `outputs` is the list of outputs, one for each
input.  Facts about a step are lifted to runs here, once.
-/

namespace Mealy

variable {σ τ ι ο : Type*}

def run (step : σ → ι → σ × ο) (s : σ) : List ι → σ
  | [] => s
  | i :: is => run step (step s i).1 is

def outputs (step : σ → ι → σ × ο) (s : σ) : List ι → List ο
  | [] => []
  | i :: is => (step s i).2 :: outputs step (step s i).1 is

section Runs

variable (step : σ → ι → σ × ο)

@[simp] theorem run_nil (s : σ) : run step s [] = s := rfl

@[simp] theorem run_cons (s : σ) (i : ι) (is : List ι) :
    run step s (i :: is) = run step (step s i).1 is := rfl

@[simp] theorem run_append (s : σ) (is js : List ι) :
    run step s (is ++ js) = run step (run step s is) js := by
  induction is generalizing s with
  | nil => rfl
  | cons i is ih => exact ih (step s i).1

@[simp] theorem outputs_nil (s : σ) : outputs step s [] = [] := rfl

@[simp] theorem outputs_cons (s : σ) (i : ι) (is : List ι) :
    outputs step s (i :: is) = (step s i).2 :: outputs step (step s i).1 is := rfl

@[simp] theorem outputs_append (s : σ) (is js : List ι) :
    outputs step s (is ++ js) = outputs step s is ++ outputs step (run step s is) js := by
  induction is generalizing s with
  | nil => rfl
  | cons i is ih => simp [ih]

/-- A state predicate kept by every admissible step holds after every run of
admissible inputs. -/
theorem run_invariant (I : σ → Prop) {ok : ι → Prop}
    (hstep : ∀ s i, ok i → I s → I (step s i).1)
    {s : σ} (hs : I s) {is : List ι} (his : ∀ i ∈ is, ok i) :
    I (run step s is) := by
  induction is generalizing s with
  | nil => exact hs
  | cons i is ih =>
      exact ih (hstep s i (his i (by simp)) hs) (fun j hj ↦ his j (by simp [hj]))

/-- A view of the state that no step changes is the same after every run. -/
theorem run_frame (view : σ → τ) (hstep : ∀ s i, view (step s i).1 = view s)
    (s : σ) (is : List ι) : view (run step s is) = view s := by
  refine run_invariant step (fun t ↦ view t = view s) ?_ rfl fun _ _ ↦ trivial
  exact fun t i _ ht ↦ (hstep t i).trans ht

/-- A view that every step either overwrites or keeps shows the last value written. -/
theorem run_lastWrite (view : σ → Option τ) (write? : ι → Option τ)
    (hstep : ∀ s i, view (step s i).1 = (write? i).or (view s)) (s : σ) (is : List ι) :
    view (run step s is) = (is.filterMap write?).getLast?.or (view s) := by
  induction is generalizing s with
  | nil => rfl
  | cons i is ih =>
      have hsplit : ((i :: is).filterMap write?).getLast? =
          (is.filterMap write?).getLast?.or (write? i) := by
        cases hwrite : write? i with
        | none => simp [hwrite]
        | some a => rw [List.filterMap_cons_some hwrite, List.getLast?_cons, Option.or_some]
      rw [run_cons, ih, hstep, hsplit, Option.or_assoc]

end Runs

end Mealy
