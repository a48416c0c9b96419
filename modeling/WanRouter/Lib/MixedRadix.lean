import Mathlib.Algebra.Order.Ring.Int

/-!
# Quantities in mixed units

A scale lists units from the largest to the smallest, each worth a whole number of the
next.  A quantity is expanded by dividing by one unit after the other, and written as
the parts whose amount is not zero.  Amounts of the largest unit are unbounded and take
the sign.
-/

namespace MixedRadix

structure Portion (U : Type*) where
  amount : ℤ
  unit : U
  deriving DecidableEq

structure Scale (U : Type*) where
  top : U
  lower : List U
  /-- The smallest unit, in which quantities are counted. -/
  base : U
  weight : U → ℤ
  /-- How many of a unit make up the unit before it. -/
  radix : U → ℤ
  nodup : (top :: lower).Nodup
  getLast?_eq_base : (top :: lower).getLast? = some base
  weight_base : weight base = 1
  weight_pos : ∀ u, 0 < weight u
  graded : (top :: lower).IsChain fun u v ↦ weight u = radix v * weight v

variable {U : Type*}

/-- The parts that are written. -/
def significant (ps : List (Portion U)) : List (Portion U) :=
  ps.filter fun p ↦ p.amount ≠ 0

@[simp]
theorem significant_nil : significant ([] : List (Portion U)) = [] := rfl

theorem significant_cons_of_ne {p : Portion U} {ps : List (Portion U)} (h : p.amount ≠ 0) :
    significant (p :: ps) = p :: significant ps :=
  List.filter_cons_of_pos (by simpa using h)

theorem significant_cons_of_eq {p : Portion U} {ps : List (Portion U)} (h : p.amount = 0) :
    significant (p :: ps) = significant ps :=
  List.filter_cons_of_neg (by simpa using h)

theorem significant_append (ps qs : List (Portion U)) :
    significant (ps ++ qs) = significant ps ++ significant qs :=
  List.filter_append ..

theorem amount_of_significant_eq_nil {ps : List (Portion U)} (h : significant ps = []) :
    ∀ p ∈ ps, p.amount = 0 := by
  intro p hp
  simpa using List.filter_eq_nil_iff.mp h p hp

namespace Scale

variable (S : Scale U)

def units : List U := S.top :: S.lower

/-- Each unit takes what it can of the remainder that the units before it leave. -/
def expand : List U → ℤ → List (Portion U)
  | [], _ => []
  | u :: us, n => ⟨n / S.weight u, u⟩ :: expand us (n % S.weight u)

def total (ps : List (Portion U)) : ℤ := (ps.map fun p ↦ p.amount * S.weight p.unit).sum

/-- The parts of a quantity; nothing at all is written as zero base units. -/
def numeral (n : ℤ) : List (Portion U) :=
  if significant (S.expand S.units n) = [] then [⟨0, S.base⟩]
  else significant (S.expand S.units n)

/-- Parts in falling order, each unit at most once and less of it than the unit before is
worth, with a zero only where it stands alone. -/
structure Canonical (ps : List (Portion U)) : Prop where
  ne_nil : ps ≠ []
  units : (ps.map Portion.unit).Sublist S.units
  range : ∀ p ∈ ps, p.unit ≠ S.top → 0 ≤ p.amount ∧ p.amount < S.radix p.unit
  zero : ∀ p ∈ ps, p.amount = 0 → ps = [⟨0, S.base⟩]

@[simp]
theorem total_nil : S.total [] = 0 := rfl

@[simp]
theorem total_cons (p : Portion U) (ps : List (Portion U)) :
    S.total (p :: ps) = p.amount * S.weight p.unit + S.total ps := by
  simp [total]

theorem total_significant (ps : List (Portion U)) : S.total (significant ps) = S.total ps := by
  induction ps with
  | nil => rfl
  | cons p ps ih =>
      by_cases hzero : p.amount = 0
      · rw [significant_cons_of_eq hzero, ih, total_cons, hzero, zero_mul, zero_add]
      · rw [significant_cons_of_ne hzero, total_cons, total_cons, ih]

theorem base_mem_units : S.base ∈ S.units := List.mem_of_getLast? S.getLast?_eq_base

theorem emod_bounds (u : U) (n : ℤ) : 0 ≤ n % S.weight u ∧ n % S.weight u < S.weight u :=
  ⟨Int.emod_nonneg n (S.weight_pos u).ne', Int.emod_lt_of_pos n (S.weight_pos u)⟩

/-! ## The expansion -/

theorem units_expand (us : List U) (n : ℤ) : (S.expand us n).map Portion.unit = us := by
  induction us generalizing n with
  | nil => rfl
  | cons u us ih => rw [expand, List.map_cons, ih]

/-- No remainder is left behind the base unit. -/
theorem total_expand {us : List U} (hlast : us.getLast? = some S.base) (n : ℤ) :
    S.total (S.expand us n) = n := by
  induction us generalizing n with
  | nil => simp at hlast
  | cons u us ih =>
      rw [expand, total_cons]
      cases us with
      | nil =>
          obtain rfl : u = S.base := by simpa using hlast
          simp [expand, S.weight_base]
      | cons v us =>
          rw [ih (by simpa using hlast)]
          exact Int.ediv_mul_add_emod n (S.weight u)

/-- A remainder of a unit is expanded within the bounds of the units below it. -/
theorem expand_range {u : U} {us : List U} {n : ℤ}
    (hgraded : (u :: us).IsChain fun u v ↦ S.weight u = S.radix v * S.weight v)
    (hn : 0 ≤ n ∧ n < S.weight u) :
    ∀ p ∈ S.expand us n, 0 ≤ p.amount ∧ p.amount < S.radix p.unit := by
  induction us generalizing u n with
  | nil => simp [expand]
  | cons v us ih =>
      obtain ⟨hweight, hrest⟩ := List.isChain_cons_cons.mp hgraded
      have hpos := S.weight_pos v
      intro p hp
      rcases List.mem_cons.mp hp with rfl | hp
      · refine ⟨Int.ediv_nonneg hn.1 hpos.le, ?_⟩
        apply Int.ediv_lt_of_lt_mul hpos
        rw [← hweight]
        exact hn.2
      · exact ih hrest (S.emod_bounds v n) p hp

theorem range_of_mem_expand {n : ℤ} {p : Portion U} (hp : p ∈ S.expand S.units n)
    (hunit : p.unit ≠ S.top) : 0 ≤ p.amount ∧ p.amount < S.radix p.unit := by
  rcases List.mem_cons.mp hp with rfl | hp
  · exact absurd rfl hunit
  · exact S.expand_range S.graded (S.emod_bounds S.top n) p hp

/-! ## The numeral -/

theorem mem_expand_of_mem_numeral {n : ℤ} {p : Portion U} (hp : p ∈ S.numeral n) :
    p ∈ S.expand S.units n := by
  rw [numeral] at hp
  split_ifs at hp with hzero
  · obtain rfl := List.mem_singleton.mp hp
    have hbase : S.base ∈ (S.expand S.units n).map Portion.unit := by
      rw [units_expand]
      exact S.base_mem_units
    obtain ⟨⟨amount, unit⟩, hmem, rfl⟩ := List.mem_map.mp hbase
    obtain rfl : amount = 0 := amount_of_significant_eq_nil hzero _ hmem
    exact hmem
  · exact (List.mem_filter.mp hp).1

theorem canonical_numeral (n : ℤ) : S.Canonical (S.numeral n) where
  ne_nil := by
    rw [numeral]
    split_ifs with hzero
    · exact List.cons_ne_nil _ _
    · exact hzero
  units := by
    rw [numeral]
    split_ifs with hzero
    · exact List.singleton_sublist.mpr S.base_mem_units
    · have hsub : ((significant (S.expand S.units n)).map Portion.unit).Sublist
          ((S.expand S.units n).map Portion.unit) := List.filter_sublist.map _
      rwa [units_expand] at hsub
  range p hp := S.range_of_mem_expand (S.mem_expand_of_mem_numeral hp)
  zero p hp hamount := by
    rw [numeral] at hp ⊢
    split_ifs at hp ⊢ with hzero
    · rfl
    · have hne := (List.mem_filter.mp hp).2
      simp [hamount] at hne

theorem total_numeral (n : ℤ) : S.total (S.numeral n) = n := by
  have hexpand := S.total_expand S.getLast?_eq_base n
  rw [numeral]
  split_ifs with hzero
  · change S.total (S.expand S.units n) = n at hexpand
    rw [← total_significant, hzero, total_nil] at hexpand
    rw [← hexpand]
    simp
  · rw [total_significant]
    exact hexpand

/-! ## Uniqueness -/

/-- Dividing a total by the first unit gives back its amount. -/
theorem expand_total_cons {u : U} {us : List U} {a : ℤ} {ps : List (Portion U)}
    (hrest : 0 ≤ S.total ps ∧ S.total ps < S.weight u) :
    S.expand (u :: us) (a * S.weight u + S.total ps) = ⟨a, u⟩ :: S.expand us (S.total ps) := by
  have hdiv : (a * S.weight u + S.total ps) / S.weight u = a := by
    rw [add_comm, Int.add_mul_ediv_right _ _ (S.weight_pos u).ne',
      Int.ediv_eq_zero_of_lt hrest.1 hrest.2, zero_add]
  have hmod : (a * S.weight u + S.total ps) % S.weight u = S.total ps := by
    rw [add_comm, Int.add_mul_emod_self_right, Int.emod_eq_of_lt hrest.1 hrest.2]
  rw [expand, hdiv, hmod]

theorem expand_total_skip {u : U} {us : List U} {ps : List (Portion U)}
    (hps : 0 ≤ S.total ps ∧ S.total ps < S.weight u) :
    S.expand (u :: us) (S.total ps) = ⟨0, u⟩ :: S.expand us (S.total ps) := by
  have hcons : S.expand (u :: us) (0 * S.weight u + S.total ps) =
      ⟨0, u⟩ :: S.expand us (S.total ps) := S.expand_total_cons hps
  rwa [zero_mul, zero_add] at hcons

/-- Parts in range below a unit are worth less than the unit, and are found again. -/
theorem expand_total_of_range {u : U} {us : List U} {ps : List (Portion U)}
    (hgraded : (u :: us).IsChain fun u v ↦ S.weight u = S.radix v * S.weight v)
    (hunits : (ps.map Portion.unit).Sublist us)
    (hrange : ∀ p ∈ ps, 0 ≤ p.amount ∧ p.amount < S.radix p.unit)
    (hne : ∀ p ∈ ps, p.amount ≠ 0) :
    (0 ≤ S.total ps ∧ S.total ps < S.weight u) ∧
      significant (S.expand us (S.total ps)) = ps := by
  induction us generalizing u ps with
  | nil =>
      obtain rfl : ps = [] := by simpa using hunits
      exact ⟨⟨le_rfl, S.weight_pos u⟩, rfl⟩
  | cons v us ih =>
      obtain ⟨hweight, hrest⟩ := List.isChain_cons_cons.mp hgraded
      have hpos := S.weight_pos v
      rcases List.sublist_cons_iff.mp hunits with hskip | ⟨tail, htail, hsub⟩
      · obtain ⟨hbounds, hfound⟩ := ih hrest hskip hrange hne
        refine ⟨⟨hbounds.1, hbounds.2.trans_le ?_⟩, ?_⟩
        · have hradix : 0 < S.radix v :=
            (pos_iff_pos_of_mul_pos (hweight ▸ S.weight_pos u)).mpr hpos
          rw [hweight]
          exact le_mul_of_one_le_left hpos.le hradix
        · rw [S.expand_total_skip hbounds, significant_cons_of_eq rfl, hfound]
      · obtain ⟨⟨a, w⟩, ps, rfl, rfl, rfl⟩ := List.map_eq_cons_iff.mp htail
        obtain ⟨hbounds, hfound⟩ := ih hrest hsub (fun p hp ↦ hrange p (by simp [hp]))
          fun p hp ↦ hne p (by simp [hp])
        have hamount := hrange ⟨a, w⟩ (by simp)
        refine ⟨⟨?_, ?_⟩, ?_⟩
        · rw [total_cons]
          exact add_nonneg (mul_nonneg hamount.1 hpos.le) hbounds.1
        · have hle : (a + 1) * S.weight w ≤ S.radix w * S.weight w :=
            mul_le_mul_of_nonneg_right hamount.2 hpos.le
          rw [total_cons, hweight]
          rw [add_mul, one_mul] at hle
          exact (add_lt_add_right hbounds.2 _).trans_le hle
        · rw [total_cons, S.expand_total_cons hbounds,
            significant_cons_of_ne (hne ⟨a, w⟩ (by simp)), hfound]

theorem significant_expand_total {ps : List (Portion U)}
    (hunits : (ps.map Portion.unit).Sublist S.units)
    (hrange : ∀ p ∈ ps, p.unit ≠ S.top → 0 ≤ p.amount ∧ p.amount < S.radix p.unit)
    (hne : ∀ p ∈ ps, p.amount ≠ 0) : significant (S.expand S.units (S.total ps)) = ps := by
  have htop : S.top ∉ S.lower := (List.nodup_cons.mp S.nodup).1
  have hlower {qs : List (Portion U)} (hqs : qs ⊆ ps)
      (hsub : (qs.map Portion.unit).Sublist S.lower) :
      ∀ p ∈ qs, 0 ≤ p.amount ∧ p.amount < S.radix p.unit := by
    intro p hp
    apply hrange p (hqs hp)
    rintro heq
    exact htop (heq ▸ hsub.subset (List.mem_map_of_mem hp))
  rcases List.sublist_cons_iff.mp hunits with hskip | ⟨tail, htail, hsub⟩
  · obtain ⟨hbounds, hfound⟩ :=
      S.expand_total_of_range S.graded hskip (hlower (List.Subset.refl ps) hskip) hne
    rw [units, S.expand_total_skip hbounds, significant_cons_of_eq rfl, hfound]
  · obtain ⟨⟨a, _⟩, qs, rfl, rfl, rfl⟩ := List.map_eq_cons_iff.mp htail
    obtain ⟨hbounds, hfound⟩ :=
      S.expand_total_of_range S.graded hsub (hlower (List.subset_cons_self _ _) hsub)
        fun p hp ↦ hne p (by simp [hp])
    rw [units, total_cons, S.expand_total_cons hbounds,
      significant_cons_of_ne (hne ⟨a, S.top⟩ (by simp)), hfound]

/-- A canonical list of parts is the numeral of its total. -/
theorem numeral_total {ps : List (Portion U)} (h : S.Canonical ps) :
    S.numeral (S.total ps) = ps := by
  by_cases hzero : ∃ p ∈ ps, p.amount = 0
  · obtain ⟨p, hp, hamount⟩ := hzero
    have hnothing : significant (S.expand S.units (S.total [])) = [] :=
      S.significant_expand_total (List.nil_sublist _) (by simp) (by simp)
    have htotal : S.total [⟨0, S.base⟩] = S.total [] := by simp
    rw [h.zero p hp hamount, htotal, numeral, if_pos hnothing]
  · have hfound : significant (S.expand S.units (S.total ps)) = ps :=
      S.significant_expand_total h.units h.range fun p hp hamount ↦ hzero ⟨p, hp, hamount⟩
    rw [numeral, hfound, if_neg h.ne_nil]

theorem numeral_injective : Function.Injective S.numeral :=
  Function.LeftInverse.injective S.total_numeral

end Scale

end MixedRadix
