import Mathlib.Algebra.Order.Ring.Int
import Mathlib.Data.List.Chain
import Mathlib.Data.List.Infix
import Mathlib.Tactic.Ring

/-!
# Periodic signals with delays and losses

A signal is sent at most a period after the one before.  Some signals are lost, but
never more than `losses` of them in a row, and the others have arrived a `delay`
after they were sent.  Then one of the signals that arrived is not older than the
delay and `losses + 1` periods.
-/

namespace Freshness

variable {period delay now : ℤ} {losses : ℕ} {Arrived : ℤ → Prop}

/-- The times of signals, the latest first, no gap longer than the period. -/
def Paced (period : ℤ) (times : List ℤ) : Prop :=
  times.IsChain fun later earlier ↦ earlier ≤ later ∧ later ≤ earlier + period

theorem Paced.le_add_mul {last : ℤ} {times : List ℤ} (h : Paced period (last :: times))
    {n : ℕ} {t : ℤ} (ht : t ∈ times.take n) : last ≤ t + n * period := by
  induction times generalizing last n with
  | nil => simp at ht
  | cons t' times ih =>
      obtain ⟨⟨hle, hgap⟩, hrest⟩ := List.isChain_cons_cons.mp h
      cases n with
      | zero => simp at ht
      | succ n =>
          have hcast : ((n + 1 : ℕ) : ℤ) * period = n * period + period := by
            rw [Nat.cast_add_one, add_one_mul]
          have hperiod : 0 ≤ n * period := mul_nonneg (Int.natCast_nonneg n) (by omega)
          rw [hcast]
          rcases List.mem_cons.mp ht with rfl | ht
          · omega
          · have hle' := ih hrest ht
            omega

theorem Paced.le_head {last : ℤ} {times : List ℤ} (h : Paced period (last :: times)) {t : ℤ}
    (ht : t ∈ times) : t ≤ last := by
  have hsorted : (last :: times).Pairwise fun later earlier ↦ earlier ≤ later :=
    (List.IsChain.imp (fun _ _ hgap ↦ hgap.1) h).pairwise
  exact (List.pairwise_cons.mp hsorted).1 t ht

/-- Of the signals that are due the latest ones are recent, and one of them arrived. -/
theorem exists_fresh_of_paced {last : ℤ} {times : List ℤ} (h : Paced period (last :: times))
    (hlast : now ≤ last + delay)
    (hlosses : ∀ window, window <:+: times → window.length = losses + 1 →
      (∀ t ∈ window, t + delay ≤ now) → ∃ t ∈ window, Arrived t)
    (harrived : ∃ t ∈ times, Arrived t) :
    ∃ t ∈ times, Arrived t ∧ now ≤ t + (delay + (losses + 1) * period) := by
  induction times generalizing last with
  | nil => simp at harrived
  | cons t' times ih =>
      obtain ⟨⟨hle, hgap⟩, hrest⟩ := List.isChain_cons_cons.mp h
      by_cases hdue : t' + delay ≤ now
      · -- All the signals are due, and the first of them is at most a period late.
        have hrecent : ∀ t ∈ (t' :: times).take (losses + 1),
            now ≤ t + (delay + (losses + 1) * period) := by
          intro t ht
          have hold := h.le_add_mul ht
          rw [Nat.cast_add_one] at hold
          omega
        by_cases hlength : ((t' :: times).take (losses + 1)).length = losses + 1
        · have hall : ∀ t ∈ (t' :: times).take (losses + 1), t + delay ≤ now := by
            intro t ht
            rcases List.mem_cons.mp (List.mem_of_mem_take ht) with rfl | ht
            · exact hdue
            · have hbefore := Paced.le_head hrest ht
              omega
          obtain ⟨t, ht, htarrived⟩ :=
            hlosses _ (List.take_prefix _ _).isInfix hlength hall
          exact ⟨t, List.mem_of_mem_take ht, htarrived, hrecent t ht⟩
        · have hshort : (t' :: times).take (losses + 1) = t' :: times := by
            apply List.take_of_length_le
            rw [List.length_take] at hlength
            omega
          obtain ⟨t, ht, htarrived⟩ := harrived
          exact ⟨t, ht, htarrived, hrecent t (by rwa [hshort])⟩
      · obtain ⟨t, ht, htarrived⟩ := harrived
        rcases List.mem_cons.mp ht with rfl | ht
        · have hperiod : 0 ≤ (losses + 1) * period := by
            apply mul_nonneg <;> omega
          exact ⟨t, List.mem_cons_self, htarrived, by omega⟩
        · have hlosses' : ∀ window, window <:+: times → window.length = losses + 1 →
              (∀ t ∈ window, t + delay ≤ now) → ∃ t ∈ window, Arrived t :=
            fun window hwindow ↦ hlosses window (hwindow.trans (List.suffix_cons _ _).isInfix)
          obtain ⟨t, ht, hfresh⟩ := ih hrest (by omega) hlosses' ⟨t, ht, htarrived⟩
          exact ⟨t, List.mem_cons_of_mem _ ht, hfresh⟩

/-- The rule with the signals in the order in which they were sent, up to the present. -/
theorem exists_fresh {times : List ℤ} (hdelay : 0 ≤ delay)
    (hsorted : (times ++ [now]).Pairwise (· ≤ ·))
    (hperiod : (times ++ [now]).IsChain fun earlier later ↦ later ≤ earlier + period)
    (hlosses : ∀ window, window <:+: times → window.length = losses + 1 →
      (∀ t ∈ window, t + delay ≤ now) → ∃ t ∈ window, Arrived t)
    (harrived : ∃ t ∈ times, Arrived t) :
    ∃ t ∈ times, Arrived t ∧ now ≤ t + (delay + (losses + 1) * period) := by
  have hpaced : (times ++ [now]).IsChain fun earlier later ↦
      earlier ≤ later ∧ later ≤ earlier + period := by
    rw [List.isChain_iff_forall_rel_of_append_cons_cons] at hperiod ⊢
    have hordered := List.isChain_iff_forall_rel_of_append_cons_cons.mp hsorted.isChain
    exact fun _ _ _ _ hsplit ↦ ⟨hordered hsplit, hperiod hsplit⟩
  have hreversed : Paced period (now :: times.reverse) := by
    have hchain := List.isChain_reverse.mpr hpaced
    rwa [List.reverse_append] at hchain
  have hlosses' : ∀ window, window <:+: times.reverse → window.length = losses + 1 →
      (∀ t ∈ window, t + delay ≤ now) → ∃ t ∈ window, Arrived t := by
    intro window hwindow hlength hdue
    obtain ⟨t, ht, htarrived⟩ := hlosses window.reverse
      (by rwa [← List.reverse_infix, List.reverse_reverse]) (by rwa [List.length_reverse])
      fun t ht ↦ hdue t (List.mem_reverse.mp ht)
    exact ⟨t, List.mem_reverse.mp ht, htarrived⟩
  obtain ⟨t, ht, hfresh⟩ := exists_fresh_of_paced hreversed (by omega) hlosses'
    (harrived.imp fun t ht ↦ ⟨List.mem_reverse.mpr ht.1, ht.2⟩)
  exact ⟨t, List.mem_reverse.mp ht, hfresh⟩

end Freshness
