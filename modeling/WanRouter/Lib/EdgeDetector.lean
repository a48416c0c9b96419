import Mathlib.Data.List.Destutter
import Mathlib.Data.List.Perm.Basic
import WanRouter.Lib.Mealy

/-!
# Edge detection on keyed observations

An edge detector keeps one level for every key.  An observation replaces the
level of its key and is reported exactly when it differs from the level it
replaces.  The reported observations of one key are the destuttered history of
that key, so with two values they alternate.
-/

namespace EdgeDetector

variable {κ α β : Type*}

/-- The list is `a, b, a, b, …`, possibly empty. -/
def Alternates (a b : α) : List α → Prop
  | [] => True
  | x :: xs => x = a ∧ Alternates b a xs

theorem alternates_of_isChain {a b : α} {xs : List α}
    (hchain : (b :: xs).IsChain (· ≠ ·)) (hmem : ∀ x ∈ xs, x = a ∨ x = b) :
    Alternates a b xs := by
  induction xs generalizing a b with
  | nil => exact trivial
  | cons x xs ih =>
      rw [List.isChain_cons_cons] at hchain
      obtain ⟨hbx, hrest⟩ := hchain
      have hx : x = a := (hmem x (by simp)).resolve_right (Ne.symm hbx)
      subst hx
      exact ⟨rfl, ih hrest fun y hy ↦ (hmem y (by simp [hy])).symm⟩

theorem Alternates.map (f : α → β) {a b : α} {xs : List α} (h : Alternates a b xs) :
    Alternates (f a) (f b) (xs.map f) := by
  induction xs generalizing a b with
  | nil => exact trivial
  | cons x xs ih => exact ⟨congrArg f h.1, ih h.2⟩

theorem Alternates.mem {a b : α} {xs : List α} (h : Alternates a b xs) :
    ∀ x ∈ xs, x = a ∨ x = b := by
  induction xs generalizing a b with
  | nil => simp
  | cons x xs ih =>
      intro y hy
      rcases List.mem_cons.mp hy with rfl | hy
      · exact Or.inl h.1
      · exact (ih h.2 y hy).symm

/-- An alternating list is continued by the value that is not its last. -/
theorem Alternates.concat [DecidableEq α] {a b : α} (hab : a ≠ b) {xs : List α}
    (h : Alternates a b xs) :
    Alternates a b (xs ++ [if xs.getLast? = some a then b else a]) := by
  induction xs generalizing a b with
  | nil => exact ⟨rfl, trivial⟩
  | cons x xs ih =>
      refine ⟨h.1, ?_⟩
      have hrest := ih hab.symm h.2
      have hnext : (if (x :: xs).getLast? = some a then b else a) =
          if xs.getLast? = some b then a else b := by
        cases hlast : xs.getLast? with
        | none => simp [List.getLast?_cons, hlast, h.1]
        | some y =>
            have hy := h.2.mem y (List.mem_of_getLast? hlast)
            rcases hy with rfl | rfl <;> simp [List.getLast?_cons, hlast, hab, hab.symm]
      rwa [hnext]

variable [DecidableEq κ]

/-- The values observed for one key, in order. -/
def history (k : κ) (obs : List (κ × α)) : List α :=
  (obs.filter fun o ↦ o.1 = k).map Prod.snd

@[simp] theorem history_nil (k : κ) : history k ([] : List (κ × α)) = [] := rfl

theorem history_append (k : κ) (obs more : List (κ × α)) :
    history k (obs ++ more) = history k obs ++ history k more := by
  simp [history]

theorem history_cons_self (k : κ) (a : α) (obs : List (κ × α)) :
    history k ((k, a) :: obs) = a :: history k obs := by
  simp [history]

theorem history_cons_of_ne {j k : κ} (h : j ≠ k) (a : α) (obs : List (κ × α)) :
    history k ((j, a) :: obs) = history k obs := by
  simp [history, h]

/-- The level function that is `on` at the selected key and `off` elsewhere. -/
def indicator (on off : α) (selected : Option κ) (k : κ) : α :=
  if selected = some k then on else off

theorem indicator_of_ne {on off : α} {selected : Option κ} {k : κ} (h : selected ≠ some k) :
    indicator on off selected k = off := if_neg h

theorem indicator_of_eq {on off : α} {selected : Option κ} {k : κ} (h : selected = some k) :
    indicator on off selected k = on := if_pos h

theorem indicator_eq_on_iff {on off : α} (hne : on ≠ off) (selected : Option κ) (k : κ) :
    indicator on off selected k = on ↔ selected = some k := by
  by_cases h : selected = some k <;> simp [indicator, h, hne.symm]

theorem indicator_ne_iff {on off : α} (hne : on ≠ off) (a b : Option κ) (k : κ) :
    indicator on off b k ≠ indicator on off a k ↔ ¬(a = some k ↔ b = some k) := by
  by_cases ha : a = some k <;> by_cases hb : b = some k <;>
    simp [indicator, ha, hb, hne, hne.symm]

variable [DecidableEq α]

def step (level : κ → α) (obs : κ × α) : (κ → α) × List (κ × α) :=
  (Function.update level obs.1 obs.2, if obs.2 = level obs.1 then [] else [obs])

def final (level : κ → α) (obs : List (κ × α)) : κ → α := Mealy.run step level obs

def edges (level : κ → α) (obs : List (κ × α)) : List (κ × α) :=
  (Mealy.outputs step level obs).flatten

@[simp] theorem final_cons (level : κ → α) (o : κ × α) (obs : List (κ × α)) :
    final level (o :: obs) = final (Function.update level o.1 o.2) obs := rfl

theorem final_append (level : κ → α) (obs more : List (κ × α)) :
    final level (obs ++ more) = final (final level obs) more :=
  Mealy.run_append step level obs more

@[simp] theorem edges_nil (level : κ → α) : edges level [] = [] := rfl

theorem edges_cons (level : κ → α) (o : κ × α) (obs : List (κ × α)) :
    edges level (o :: obs) =
      (if o.2 = level o.1 then [] else [o]) ++ edges (Function.update level o.1 o.2) obs := rfl

theorem edges_append (level : κ → α) (obs more : List (κ × α)) :
    edges level (obs ++ more) = edges level obs ++ edges (final level obs) more := by
  simp [edges, final]

/-- The level of a key is its last observation, or the initial level. -/
theorem final_apply (level : κ → α) (obs : List (κ × α)) (k : κ) :
    final level obs k = (history k obs).getLastD (level k) := by
  induction obs generalizing level with
  | nil => rfl
  | cons o obs ih =>
      obtain ⟨j, a⟩ := o
      rw [final_cons, ih]
      by_cases hj : j = k
      · subst hj
        rw [history_cons_self, Function.update_self, List.getLastD_cons]
      · rw [history_cons_of_ne hj, Function.update_of_ne (Ne.symm hj)]

/-- The edges of one key are its destuttered history. -/
theorem cons_history_edges (level : κ → α) (obs : List (κ × α)) (k : κ) :
    level k :: history k (edges level obs) =
      (history k obs).destutter' (· ≠ ·) (level k) := by
  induction obs generalizing level with
  | nil => rfl
  | cons o obs ih =>
      obtain ⟨j, a⟩ := o
      rw [edges_cons, history_append]
      have hrest := ih (Function.update level j a)
      by_cases hj : j = k
      · subst hj
        rw [Function.update_self] at hrest
        rw [history_cons_self]
        by_cases ha : a = level j
        · rw [List.destutter'_cons_neg _ (by simpa using ha.symm), ← ha, ← hrest]
          simp
        · rw [List.destutter'_cons_pos _ (by simpa using Ne.symm ha), ← hrest, if_neg ha,
            history_cons_self]
          rfl
      · rw [Function.update_of_ne (Ne.symm hj)] at hrest
        rw [history_cons_of_ne hj, ← hrest]
        by_cases ha : a = level j
        · simp [ha]
        · rw [if_neg ha, history_cons_of_ne hj]
          rfl

/-- Between two values the edges of a key alternate, starting with the value
that is not its initial level. -/
theorem alternates_history_edges {on off : α} (level : κ → α) (obs : List (κ × α)) (k : κ)
    (hlevel : level k = on) (hobs : ∀ o ∈ obs, o.2 = on ∨ o.2 = off) :
    Alternates off on (history k (edges level obs)) := by
  have hcons := cons_history_edges level obs k
  rw [hlevel] at hcons
  apply alternates_of_isChain
  · rw [hcons]
    exact List.isChain_destutter' _ _ _
  · intro x hx
    have hmem : x ∈ on :: history k obs := by
      apply (List.destutter'_sublist (R := (· ≠ ·)) (history k obs) on).mem
      rw [← hcons]
      exact List.mem_cons_of_mem _ hx
    rcases List.mem_cons.mp hmem with rfl | hmem
    · exact Or.inr rfl
    · obtain ⟨o, ho, rfl⟩ := List.mem_map.mp hmem
      exact (hobs o (List.mem_of_mem_filter ho)).symm

/-- The last edge of a key, or its initial level, is its current level. -/
theorem getLastD_history_edges (level : κ → α) (obs : List (κ × α)) (k : κ) :
    (history k (edges level obs)).getLastD (level k) = final level obs k := by
  induction obs generalizing level with
  | nil => rfl
  | cons o obs ih =>
      obtain ⟨j, a⟩ := o
      rw [edges_cons, history_append, final_cons, ← ih]
      by_cases hj : j = k
      · subst hj
        by_cases ha : a = level j
        · simp [ha]
        · rw [if_neg ha, history_cons_self, history_nil, List.singleton_append,
            List.getLastD_cons, Function.update_self]
      · rw [Function.update_of_ne (Ne.symm hj)]
        by_cases ha : a = level j
        · simp [ha]
        · rw [if_neg ha, history_cons_of_ne hj]
          rfl

/-! ## The changes of one value -/

variable {τ : Type*}

/-- Where a value differs from the last one known; an observation may give no value. -/
def changes (last : Option α) : List (τ × Option α) → List (τ × α × α)
  | [] => []
  | (_, none) :: obs => changes last obs
  | (t, some a) :: obs =>
      (last.toList.filter (· ≠ a)).map (fun b ↦ (t, b, a)) ++ changes (some a) obs

theorem changes_append (last : Option α) (obs more : List (τ × Option α)) :
    changes last (obs ++ more) =
      changes last obs ++ changes ((obs.filterMap Prod.snd).getLast?.or last) more := by
  induction obs generalizing last with
  | nil => rfl
  | cons o obs ih =>
      obtain ⟨t, _ | a⟩ := o
      · exact ih last
      · rw [List.cons_append, changes, changes, ih, List.append_assoc]
        cases h : (obs.filterMap Prod.snd).getLast? <;> simp [List.getLast?_cons, h]

theorem exists_destutter'_eq_cons (a : α) (l : List α) :
    ∃ rest, l.destutter' (· ≠ ·) a = a :: rest := by
  induction l generalizing a with
  | nil => exact ⟨[], rfl⟩
  | cons b l ih =>
      by_cases hne : a ≠ b
      · exact ⟨_, List.destutter'_cons_pos _ hne⟩
      · rw [List.destutter'_cons_neg _ hne]
        exact ih a

theorem map_changes_some (b : α) (obs : List (τ × Option α)) :
    (changes (some b) obs).map Prod.snd =
      ((obs.filterMap Prod.snd).destutter' (· ≠ ·) b).zip
        ((obs.filterMap Prod.snd).destutter' (· ≠ ·) b).tail := by
  induction obs generalizing b with
  | nil => rfl
  | cons o obs ih =>
      obtain ⟨t, _ | a⟩ := o
      · exact ih b
      · have hcons : ((t, some a) :: obs).filterMap Prod.snd = a :: obs.filterMap Prod.snd := rfl
        rw [changes, List.map_append, ih, hcons]
        by_cases hne : b ≠ a
        · obtain ⟨rest, hrest⟩ := exists_destutter'_eq_cons a (obs.filterMap Prod.snd)
          rw [List.destutter'_cons_pos _ hne, hrest]
          simp [hne]
        · rw [List.destutter'_cons_neg _ hne]
          obtain rfl := not_not.mp hne
          simp

/-- The changes of a value lead through its history without the repetitions. -/
theorem map_changes (obs : List (τ × Option α)) :
    (changes none obs).map Prod.snd =
      ((obs.filterMap Prod.snd).destutter (· ≠ ·)).zip
        ((obs.filterMap Prod.snd).destutter (· ≠ ·)).tail := by
  induction obs with
  | nil => rfl
  | cons o obs ih =>
      obtain ⟨t, _ | a⟩ := o
      · exact ih
      · exact map_changes_some a obs

/-! ## Levels with at most one key on -/

/-- Moving the selection from `a` to `b` changes exactly these two keys. -/
theorem filter_indicator_perm {on off : α} (hne : on ≠ off) {ks : List κ} (hks : ks.Nodup)
    {a b : Option κ} (hab : a ≠ b) (ha : ∀ k ∈ a, k ∈ ks) (hb : ∀ k ∈ b, k ∈ ks) :
    (ks.filter fun k ↦ indicator on off b k ≠ indicator on off a k).Perm
      (a.toList ++ b.toList) := by
  have hnodup : (a.toList ++ b.toList).Nodup := by
    cases a <;> cases b <;> simp_all
  rw [List.perm_ext_iff_of_nodup (hks.filter _) hnodup]
  intro k
  simp only [List.mem_filter, decide_eq_true_eq, indicator_ne_iff hne, List.mem_append,
    Option.mem_toList]
  constructor
  · rintro ⟨-, hk⟩
    by_contra hn
    exact hk ⟨fun h ↦ (hn (Or.inl h)).elim, fun h ↦ (hn (Or.inr h)).elim⟩
  · rintro (h | h)
    · exact ⟨ha k h, fun hiff ↦ hab (h.trans (hiff.mp h).symm)⟩
    · exact ⟨hb k h, fun hiff ↦ hab ((hiff.mpr h).trans h.symm)⟩

end EdgeDetector
