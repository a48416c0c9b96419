import Mathlib.Data.List.DropRight
import Mathlib.Order.Bounds.Basic

/-!
# Periods of a sequence

A period is a maximal block of consecutive entries that a view maps to the same
value.  The last period of a list is extended by an entry with the same value and
replaced by an entry with another one.
-/

namespace Periods

variable {ι α : Type*}

/-! ## Where the last period starts -/

/-- The last period of the list starts at `q`, after `pre`, and goes on with `post`. -/
structure LastPeriod (view : ι → α) (l pre : List ι) (q : ι) (post : List ι) : Prop where
  split : l = pre ++ q :: post
  constant : ∀ x ∈ post, view x = view q
  fresh : ∀ x ∈ pre.getLast?, view x ≠ view q

variable {view : ι → α} {l pre post : List ι} {q x : ι}

theorem LastPeriod.extend (h : LastPeriod view l pre q post) (hx : view x = view q) :
    LastPeriod view (l ++ [x]) pre q (post ++ [x]) where
  split := by rw [h.split, List.append_assoc, List.cons_append]
  constant := by
    intro y hy
    rcases List.mem_append.mp hy with hy | hy
    · exact h.constant y hy
    · rwa [List.mem_singleton.mp hy]
  fresh := h.fresh

theorem LastPeriod.start (h : ∀ y ∈ l.getLast?, view y ≠ view x) :
    LastPeriod view (l ++ [x]) l x [] where
  split := rfl
  constant := by simp
  fresh := h

theorem LastPeriod.view_last (h : LastPeriod view l pre q post) (hx : x ∈ l.getLast?) :
    view x = view q := by
  rw [h.split, List.getLast?_append_of_ne_nil _ (List.cons_ne_nil q post)] at hx
  rcases List.mem_cons.mp (List.mem_of_getLast? hx) with rfl | hmem
  · rfl
  · exact h.constant x hmem

/-- A mark of the start of the last period is kept by an entry with the same value and
replaced by any other. -/
theorem LastPeriod.mark [DecidableEq α] {β : Type*} (h : LastPeriod view l pre q post)
    (f : ι → β) (x : ι) :
    ∃ pre' q' post', LastPeriod view (l ++ [x]) pre' q' post' ∧ view q' = view x ∧
      f q' = if view x = view q then f q else f x := by
  by_cases hx : view x = view q
  · exact ⟨pre, q, _, h.extend hx, hx.symm, (if_pos hx).symm⟩
  · refine ⟨l, x, [], LastPeriod.start ?_, rfl, (if_neg hx).symm⟩
    intro y hy
    rw [h.view_last hy]
    exact Ne.symm hx

/-- The start is the least index from which on the value stays the same. -/
theorem LastPeriod.isLeast (h : LastPeriod view l pre q post) :
    IsLeast {k | ∀ j, k ≤ j → ∀ x ∈ l[j]?, view x = view q} pre.length := by
  constructor
  · intro j hj x hx
    rw [h.split, List.getElem?_append_right hj] at hx
    rcases List.mem_cons.mp (List.mem_of_getElem? hx) with rfl | hmem
    · rfl
    · exact h.constant x hmem
  · intro k hk
    by_contra hlt
    rw [not_le] at hlt
    have hlast : l[pre.length - 1]? = pre.getLast? := by
      rw [h.split, List.getElem?_append_left (by omega), List.getLast?_eq_getElem?]
    obtain ⟨y, hy⟩ := Option.isSome_iff_exists.mp
      (List.getLast?_isSome.mpr (List.ne_nil_of_length_pos (Nat.zero_lt_of_lt hlt)))
    exact h.fresh y hy (hk (pre.length - 1) (by omega) y (hlast ▸ hy))

/-! ## How long ago the last change was -/

/-- The number of entries after the last change, where an entry is a change if it
differs from the entry before it, and the first if it differs from `a`. -/
def sinceChange [DecidableEq α] (a : α) (values : List α) : ℕ :=
  (((a :: values).zip values).rtakeWhile fun p ↦ p.1 = p.2).length

theorem zip_cons_concat (a : α) (values : List α) (v : α) :
    (a :: (values ++ [v])).zip (values ++ [v]) =
      (a :: values).zip values ++ [(values.getLastD a, v)] := by
  induction values generalizing a with
  | nil => rfl
  | cons b values ih =>
      rw [List.cons_append, List.zip_cons_cons, ih, List.zip_cons_cons, List.getLastD_cons,
        List.cons_append]

variable [DecidableEq α]

theorem sinceChange_concat (a : α) (values : List α) (v : α) :
    sinceChange a (values ++ [v]) =
      if values.getLastD a = v then sinceChange a values + 1 else 0 := by
  rw [sinceChange, zip_cons_concat, List.rtakeWhile_concat]
  by_cases h : values.getLastD a = v
  · rw [if_pos (decide_eq_true h), if_pos h, List.length_append, List.length_singleton,
      sinceChange]
  · rw [if_neg (by simpa using h), if_neg h, List.length_nil]

end Periods
