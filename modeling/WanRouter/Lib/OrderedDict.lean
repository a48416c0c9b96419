import Mathlib.Data.List.Nodup
import Mathlib.Data.List.Perm.Basic

/-!
# Insertion-ordered dictionaries

A dictionary is a list of pairs whose keys are distinct.  Assigning to a
present key keeps its position and assigning to a new key appends, so iteration
follows the order of first insertion.  The distinctness of the keys is a field,
and every operation below rebuilds it.
-/

namespace OrderedDict

/-- A finite map that remembers the order in which its keys were first set. -/
structure Dict (κ ν : Type*) where
  items : List (κ × ν)
  nodup_keys : (items.map Prod.fst).Nodup

namespace Dict

variable {κ ν μ : Type*}

def keys (d : Dict κ ν) : List κ := d.items.map Prod.fst

def values (d : Dict κ ν) : List ν := d.items.map Prod.snd

def empty : Dict κ ν := ⟨[], List.nodup_nil⟩

instance : EmptyCollection (Dict κ ν) := ⟨empty⟩

instance : Inhabited (Dict κ ν) := ⟨empty⟩

@[ext] theorem ext {d e : Dict κ ν} (h : d.items = e.items) : d = e := by
  cases d
  cases e
  cases h
  rfl

instance [DecidableEq κ] [DecidableEq ν] : DecidableEq (Dict κ ν) := fun d e ↦
  decidable_of_iff (d.items = e.items) ⟨Dict.ext, congrArg Dict.items⟩

theorem keys_nodup (d : Dict κ ν) : d.keys.Nodup := d.nodup_keys

/-- The comprehension `{k: f(k, v) for k, v in d.items()}`. -/
def mapItems (d : Dict κ ν) (f : κ → ν → μ) : Dict κ μ where
  items := d.items.map fun p ↦ (p.1, f p.1 p.2)
  nodup_keys := by simpa [Function.comp_def] using d.nodup_keys

@[simp] theorem keys_mapItems (d : Dict κ ν) (f : κ → ν → μ) :
    (d.mapItems f).keys = d.keys := by
  simp [mapItems, keys, Function.comp_def]

theorem values_mapItems (d : Dict κ ν) (f : κ → ν → μ) :
    (d.mapItems f).values = d.items.map fun p ↦ f p.1 p.2 := by
  simp [mapItems, values]

variable [DecidableEq κ]

def get? (d : Dict κ ν) (k : κ) : Option ν := d.items.lookup k

theorem map_fst_assign (l : List (κ × ν)) (k : κ) (v : ν) :
    (l.map fun p ↦ if p.1 = k then (k, v) else p).map Prod.fst = l.map Prod.fst := by
  rw [List.map_map]
  apply List.map_congr_left
  intro p _hp
  by_cases hp : p.1 = k <;> simp [hp]

def set (d : Dict κ ν) (k : κ) (v : ν) : Dict κ ν where
  items :=
    if k ∈ d.keys then d.items.map fun p ↦ if p.1 = k then (k, v) else p
    else d.items ++ [(k, v)]
  nodup_keys := by
    by_cases hk : k ∈ d.keys
    · rw [if_pos hk, map_fst_assign]
      exact d.nodup_keys
    · rw [if_neg hk, List.map_append]
      apply d.nodup_keys.append (by simp)
      simpa [keys] using hk

theorem items_set_of_mem {d : Dict κ ν} {k : κ} (hk : k ∈ d.keys) (v : ν) :
    (d.set k v).items = d.items.map fun p ↦ if p.1 = k then (k, v) else p := if_pos hk

theorem items_set_of_not_mem {d : Dict κ ν} {k : κ} (hk : k ∉ d.keys) (v : ν) :
    (d.set k v).items = d.items ++ [(k, v)] := if_neg hk

theorem keys_set (d : Dict κ ν) (k : κ) (v : ν) :
    (d.set k v).keys = if k ∈ d.keys then d.keys else d.keys ++ [k] := by
  by_cases hk : k ∈ d.keys
  · rw [if_pos hk, keys, items_set_of_mem hk, map_fst_assign, keys]
  · rw [if_neg hk, keys, items_set_of_not_mem hk, List.map_append, keys]
    rfl

theorem mem_keys_set {d : Dict κ ν} {j k : κ} {v : ν} :
    j ∈ (d.set k v).keys ↔ j ∈ d.keys ∨ j = k := by
  rw [keys_set]
  by_cases hk : k ∈ d.keys
  · rw [if_pos hk, or_iff_left_of_imp]
    rintro rfl
    exact hk
  · simp [hk]

/-- `dict(pairs)`: later pairs overwrite earlier ones. -/
def ofList (l : List (κ × ν)) : Dict κ ν := l.foldl (fun d p ↦ d.set p.1 p.2) ∅

@[simp] theorem get?_empty (k : κ) : (∅ : Dict κ ν).get? k = none := rfl

theorem get?_eq_some_iff {d : Dict κ ν} {k : κ} {v : ν} :
    d.get? k = some v ↔ (k, v) ∈ d.items := by
  obtain ⟨l, hl⟩ := d
  simp only [get?]
  induction l with
  | nil => simp
  | cons p l ih =>
      obtain ⟨j, w⟩ := p
      have hj : j ∉ l.map Prod.fst := (List.nodup_cons.mp hl).1
      by_cases hkj : k = j
      · subst hkj
        simp only [List.lookup_cons_self, Option.some.injEq, List.mem_cons, Prod.mk.injEq,
          true_and]
        constructor
        · exact fun h ↦ Or.inl h.symm
        · rintro (h | h)
          · exact h.symm
          · exact (hj (List.mem_map.mpr ⟨(k, v), h, rfl⟩)).elim
      · have hb : (k == j) = false := by simpa using hkj
        simpa [List.lookup_cons, hb, hkj] using ih (List.nodup_cons.mp hl).2

theorem get?_eq_none_iff {d : Dict κ ν} {k : κ} : d.get? k = none ↔ k ∉ d.keys := by
  simp [Option.eq_none_iff_forall_ne_some, get?_eq_some_iff, keys]

theorem exists_get?_of_mem_keys {d : Dict κ ν} {k : κ} (h : k ∈ d.keys) :
    ∃ v, d.get? k = some v := by
  cases hv : d.get? k with
  | none => exact (get?_eq_none_iff.mp hv h).elim
  | some v => exact ⟨v, rfl⟩

theorem mem_keys_of_get? {d : Dict κ ν} {k : κ} {v : ν} (h : d.get? k = some v) :
    k ∈ d.keys := List.mem_map_of_mem (get?_eq_some_iff.mp h)

theorem mem_values_iff {d : Dict κ ν} {v : ν} : v ∈ d.values ↔ ∃ k, d.get? k = some v := by
  simp [values, get?_eq_some_iff]

theorem get?_set_self (d : Dict κ ν) (k : κ) (v : ν) : (d.set k v).get? k = some v := by
  rw [get?_eq_some_iff]
  by_cases hk : k ∈ d.keys
  · obtain ⟨p, hp, hpk⟩ := List.mem_map.mp hk
    rw [items_set_of_mem hk]
    exact List.mem_map.mpr ⟨p, hp, if_pos hpk⟩
  · simp [items_set_of_not_mem hk]

theorem get?_set_of_ne (d : Dict κ ν) {j k : κ} (v : ν) (h : j ≠ k) :
    (d.set k v).get? j = d.get? j := by
  apply Option.ext
  intro w
  rw [get?_eq_some_iff, get?_eq_some_iff]
  by_cases hk : k ∈ d.keys
  · rw [items_set_of_mem hk, List.mem_map]
    constructor
    · rintro ⟨p, hp, hpe⟩
      by_cases hpk : p.1 = k
      · rw [if_pos hpk, Prod.mk.injEq] at hpe
        exact (h hpe.1.symm).elim
      · rw [if_neg hpk] at hpe
        exact hpe ▸ hp
    · exact fun hp ↦ ⟨(j, w), hp, if_neg h⟩
  · simp [items_set_of_not_mem hk, h]

theorem get?_set (d : Dict κ ν) (j k : κ) (v : ν) :
    (d.set k v).get? j = if j = k then some v else d.get? j := by
  by_cases h : j = k
  · subst h
    simp [get?_set_self]
  · simp [get?_set_of_ne d v h, h]

theorem get?_mapItems (d : Dict κ ν) (f : κ → ν → μ) (k : κ) :
    (d.mapItems f).get? k = (d.get? k).map (f k) := by
  apply Option.ext
  intro w
  rw [get?_eq_some_iff]
  simp only [mapItems, List.mem_map, Option.map_eq_some_iff, get?_eq_some_iff, Prod.mk.injEq]
  constructor
  · rintro ⟨⟨j, v⟩, hp, rfl, hw⟩
    exact ⟨v, hp, hw⟩
  · rintro ⟨v, hp, hw⟩
    exact ⟨(k, v), hp, rfl, hw⟩

theorem get?_foldl_set (l : List (κ × ν)) (d : Dict κ ν) (k : κ) :
    (l.foldl (fun d p ↦ d.set p.1 p.2) d).get? k =
      (l.reverse.lookup k).or (d.get? k) := by
  induction l generalizing d with
  | nil => simp
  | cons p l ih =>
      obtain ⟨j, v⟩ := p
      have hone : [(j, v)].lookup k = if k = j then some v else none := by
        by_cases hkj : k = j <;> simp [List.lookup_eq_findSome?, hkj]
      rw [List.foldl_cons, ih, get?_set, List.reverse_cons, List.lookup_append, hone]
      by_cases hkj : k = j <;> cases l.reverse.lookup k <;> simp [hkj]

theorem get?_ofList (l : List (κ × ν)) (k : κ) : (ofList l).get? k = l.reverse.lookup k := by
  rw [ofList, get?_foldl_set]
  simp

/-- A key has the value of the last pair that sets it. -/
theorem get?_ofList_eq_some_iff {l : List (κ × ν)} {k : κ} {v : ν} :
    (ofList l).get? k = some v ↔
      ∃ before after, l = before ++ (k, v) :: after ∧ ∀ p ∈ after, p.1 ≠ k := by
  rw [get?_ofList, List.lookup_eq_some_iff]
  constructor
  · rintro ⟨pre, post, hl, hpre⟩
    refine ⟨post.reverse, pre.reverse, ?_, ?_⟩
    · rw [← List.reverse_reverse l, hl]
      simp
    · intro p hp
      exact (bne_iff_ne.mp (hpre p (List.mem_reverse.mp hp))).symm
  · rintro ⟨before, after, rfl, hafter⟩
    refine ⟨after.reverse, before.reverse, by simp, ?_⟩
    intro p hp
    exact bne_iff_ne.mpr (hafter p (List.mem_reverse.mp hp)).symm

theorem mem_of_get?_ofList {l : List (κ × ν)} {k : κ} {v : ν}
    (h : (ofList l).get? k = some v) : (k, v) ∈ l := by
  obtain ⟨before, after, rfl, -⟩ := get?_ofList_eq_some_iff.mp h
  simp

theorem get?_ofList_of_nodup {l : List (κ × ν)} (hl : (l.map Prod.fst).Nodup) {k : κ} {v : ν}
    (h : (k, v) ∈ l) : (ofList l).get? k = some v := by
  have hrev : (l.reverse.map Prod.fst).Nodup := by simpa using hl
  rw [get?_ofList]
  exact (get?_eq_some_iff (d := ⟨l.reverse, hrev⟩)).mpr (by simpa using h)

/-- Searching for the only key that satisfies a predicate finds it. -/
theorem map_fst_find? {d : Dict κ ν} {p : κ × ν → Bool} {selected : Option κ}
    (hp : ∀ k v, d.get? k = some v → (p (k, v) = true ↔ selected = some k))
    (hselected : ∀ k ∈ selected, k ∈ d.keys) :
    (d.items.find? p).map Prod.fst = selected := by
  cases hf : d.items.find? p with
  | none =>
      cases selected with
      | none => rfl
      | some k =>
          obtain ⟨v, hv⟩ := exists_get?_of_mem_keys (hselected k rfl)
          have hno := List.find?_eq_none.mp hf (k, v) (get?_eq_some_iff.mp hv)
          exact (hno ((hp k v hv).mpr rfl)).elim
  | some kv =>
      have hmem := get?_eq_some_iff.mpr (List.mem_of_find?_eq_some hf)
      exact ((hp kv.1 kv.2 hmem).mp (List.find?_some hf)).symm

end Dict

end OrderedDict
