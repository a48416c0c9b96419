import Mathlib.Data.List.Nodup
import Mathlib.Data.List.Perm.Basic
import WanRouter.Lib.Mealy

/-!
# Machines whose state is a family of cells

Every input has a key, and a step reads and writes only the cell of its key.
`Agree k s t` says that two states hold the same in the cell `k`.  A run is then
a product of runs, one for each key, and inputs with distinct keys commute.
-/

namespace Mealy

variable {σ ι ο κ : Type*}

/-- A step reads and writes only the cell of its key. -/
structure KeyedCells (step : σ → ι → σ × ο) (key : ι → κ) (Agree : κ → σ → σ → Prop) :
    Prop where
  refl : ∀ k s, Agree k s s
  symm : ∀ {k s t}, Agree k s t → Agree k t s
  trans : ∀ {k s t u}, Agree k s t → Agree k t u → Agree k s u
  output : ∀ {s t i}, Agree (key i) s t → (step s i).2 = (step t i).2
  write : ∀ {s t i}, Agree (key i) s t → Agree (key i) (step s i).1 (step t i).1
  frame : ∀ {s i k}, k ≠ key i → Agree k (step s i).1 s

section Cells

variable {step : σ → ι → σ × ο} {key : ι → κ} {Agree : κ → σ → σ → Prop}

/-- Inputs with distinct keys answer as if each were the first. -/
theorem KeyedCells.outputs_eq_map (h : KeyedCells step key Agree) (s : σ) {is : List ι}
    (hdistinct : (is.map key).Nodup) : outputs step s is = is.map fun i ↦ (step s i).2 := by
  induction is generalizing s with
  | nil => rfl
  | cons i is ih =>
      obtain ⟨hi, hrest⟩ := List.nodup_cons.mp hdistinct
      rw [outputs_cons, ih _ hrest, List.map_cons]
      congr 1
      apply List.map_congr_left
      intro j hj
      have hne : key j ≠ key i := by
        rintro heq
        exact hi (heq ▸ List.mem_map_of_mem hj)
      exact h.output (h.frame hne)

variable [DecidableEq κ]

/-- The outputs of the inputs with one key. -/
def outputsAt (step : σ → ι → σ × ο) (key : ι → κ) (k : κ) (s : σ) : List ι → List ο
  | [] => []
  | i :: is =>
      if key i = k then (step s i).2 :: outputsAt step key k (step s i).1 is
      else outputsAt step key k (step s i).1 is

/-- The cell of a key and the outputs at it are those of the inputs with this key alone. -/
theorem KeyedCells.run_filter (h : KeyedCells step key Agree) {k : κ} {s t : σ}
    (hst : Agree k s t) (is : List ι) :
    Agree k (run step s is) (run step t (is.filter (key · = k))) ∧
      outputsAt step key k s is = outputs step t (is.filter (key · = k)) := by
  induction is generalizing s t with
  | nil => exact ⟨hst, rfl⟩
  | cons i is ih =>
      by_cases hi : key i = k
      · subst hi
        obtain ⟨hcell, hout⟩ := ih (h.write hst)
        rw [List.filter_cons_of_pos (by simp)]
        refine ⟨hcell, ?_⟩
        rw [outputsAt, if_pos rfl, outputs_cons, h.output hst, hout]
      · obtain ⟨hcell, hout⟩ := ih (h.trans (h.frame (Ne.symm hi)) hst)
        rw [List.filter_cons_of_neg (by simpa using hi)]
        refine ⟨hcell, ?_⟩
        rw [outputsAt, if_neg hi, hout]

theorem length_filter_key_le {is : List ι} (hdistinct : (is.map key).Nodup) (k : κ) :
    (is.filter (key · = k)).length ≤ 1 := by
  have hcount : (is.map key).count k ≤ 1 := List.nodup_iff_count_le_one.mp hdistinct k
  rwa [List.count, List.countP_map, List.countP_eq_length_filter] at hcount

theorem filter_key_eq_of_perm {is js : List ι} (hperm : is.Perm js)
    (hdistinct : (is.map key).Nodup) (k : κ) :
    is.filter (key · = k) = js.filter (key · = k) := by
  have hfilter := hperm.filter (key · = k)
  have hle := length_filter_key_le hdistinct k
  cases hl : is.filter (key · = k) with
  | nil =>
      rw [hl] at hfilter
      exact hfilter.nil_eq
  | cons i rest =>
      rw [hl, List.length_cons] at hle
      obtain rfl : rest = [] := List.length_eq_zero_iff.mp (by omega)
      rw [hl] at hfilter
      exact (List.perm_singleton.mp hfilter.symm).symm

/-- Inputs with distinct keys can be taken in any order. -/
theorem KeyedCells.run_perm (h : KeyedCells step key Agree) (s : σ) {is js : List ι}
    (hperm : is.Perm js) (hdistinct : (is.map key).Nodup) :
    (∀ k, Agree k (run step s is) (run step s js)) ∧
      (outputs step s is).Perm (outputs step s js) := by
  refine ⟨?_, ?_⟩
  · intro k
    have his := (h.run_filter (h.refl k s) is).1
    have hjs := (h.run_filter (h.refl k s) js).1
    rw [filter_key_eq_of_perm hperm hdistinct k] at his
    exact h.trans his (h.symm hjs)
  · rw [h.outputs_eq_map s hdistinct, h.outputs_eq_map s ((hperm.map key).nodup_iff.mp hdistinct)]
    exact hperm.map _

end Cells

end Mealy
