import Mathlib.Data.List.Basic
import Mathlib.Order.WellFounded

/-!
# Backtracking patterns

A pattern is matched by trying its alternatives in order.  `successes` lists all
ways to match a prefix of a text in the order in which a backtracking matcher
finds them, `first` is the match it reports, and `search` is its leftmost match in
a text.  The quantified items are single characters.
-/

namespace Backtracking

variable {α : Type*}

inductive Pattern (α : Type*) where
  | empty
  | one (p : α → Bool)
  | many (greedy : Bool) (p : α → Bool)
  | seq (a b : Pattern α)
  | alt (a b : Pattern α)
  | group (a : Pattern α)

/-- A match: the text it consumed, the texts of its groups and the text after it. -/
structure Success (α : Type*) where
  text : List α
  groups : List (List α)
  rest : List α
  deriving DecidableEq

def Success.append (m m' : Success α) : Success α :=
  ⟨m.text ++ m'.text, m.groups ++ m'.groups, m'.rest⟩

/-- The ways to split off characters that satisfy `p`, the most wanted one first. -/
def splits (greedy : Bool) (p : α → Bool) : List α → List (List α × List α)
  | [] => [([], [])]
  | c :: s =>
      if p c then
        let longer := (splits greedy p s).map fun q ↦ (c :: q.1, q.2)
        if greedy then longer ++ [([], c :: s)] else ([], c :: s) :: longer
      else [([], c :: s)]

namespace Pattern

def successes : Pattern α → List α → List (Success α)
  | empty, s => [⟨[], [], s⟩]
  | one _, [] => []
  | one p, c :: s => if p c then [⟨[c], [], s⟩] else []
  | many greedy p, s => (splits greedy p s).map fun q ↦ ⟨q.1, [], q.2⟩
  | seq a b, s => (a.successes s).flatMap fun m ↦ (b.successes m.rest).map m.append
  | alt a b, s => a.successes s ++ b.successes s
  | group a, s => (a.successes s).map fun m ↦ { m with groups := m.text :: m.groups }

def first (a : Pattern α) (s : List α) : Option (Success α) := (a.successes s).head?

def search (a : Pattern α) : List α → Option (Success α)
  | [] => a.first []
  | c :: s => (a.first (c :: s)).or (a.search s)

def concat : List (Pattern α) → Pattern α
  | [] => empty
  | a :: as => seq a (concat as)

def oneOf : List (Pattern α) → Pattern α
  | [] => one fun _ ↦ false
  | a :: as => alt a (oneOf as)

def times (k : ℕ) (p : α → Bool) : Pattern α := concat (List.replicate k (one p))

def literal [DecidableEq α] (l : List α) : Pattern α :=
  concat (l.map fun c ↦ one (· = c))

/-- As many as possible. -/
def oneOrMore (p : α → Bool) : Pattern α := seq (one p) (many true p)

def zeroOrMore (p : α → Bool) : Pattern α := many true p

/-- As few as possible. -/
def oneOrMoreLazy (p : α → Bool) : Pattern α := seq (one p) (many false p)

/-! ## What a success consumes -/

theorem mem_splits_iff {greedy : Bool} {p : α → Bool} {s x y : List α} :
    (x, y) ∈ splits greedy p s ↔ s = x ++ y ∧ ∀ c ∈ x, p c = true := by
  induction s generalizing x with
  | nil =>
      simp only [splits, List.mem_singleton, Prod.mk.injEq, List.nil_eq, List.append_eq_nil_iff]
      constructor
      · rintro ⟨rfl, rfl⟩
        simp
      · rintro ⟨⟨rfl, rfl⟩, -⟩
        simp
  | cons c s ih =>
      have hlonger : (x, y) ∈ (splits greedy p s).map (fun q ↦ (c :: q.1, q.2)) ↔
          ∃ x', x = c :: x' ∧ s = x' ++ y ∧ ∀ c ∈ x', p c = true := by
        simp only [List.mem_map, Prod.mk.injEq, Prod.exists]
        constructor
        · rintro ⟨x', y', hmem, rfl, rfl⟩
          exact ⟨x', rfl, ih.mp hmem⟩
        · rintro ⟨x', rfl, hx'⟩
          exact ⟨x', y, ih.mpr hx', rfl, rfl⟩
      have hboth : (x, y) ∈ splits greedy p (c :: s) ↔
          (x = [] ∧ y = c :: s) ∨ p c = true ∧
            ∃ x', x = c :: x' ∧ s = x' ++ y ∧ ∀ c ∈ x', p c = true := by
        cases hc : p c with
        | false => simp [splits, hc]
        | true =>
            cases greedy
            · simp only [splits, hc, if_true, Bool.false_eq_true, if_false, List.mem_cons, hlonger,
                Prod.mk.injEq, true_and]
            · simp only [splits, hc, if_true, List.mem_append, List.mem_singleton, hlonger,
                Prod.mk.injEq, true_and]
              exact or_comm
      rw [hboth]
      cases x with
      | nil =>
          constructor
          · rintro (⟨-, rfl⟩ | ⟨-, x', h, -⟩)
            · simp
            · cases h
          · rintro ⟨heq, -⟩
            exact Or.inl ⟨rfl, heq.symm⟩
      | cons d x =>
          constructor
          · rintro (⟨h, -⟩ | ⟨hc, x', h, rfl, hx'⟩)
            · cases h
            · cases h
              exact ⟨rfl, by simpa [hc] using hx'⟩
          · rintro ⟨heq, hall⟩
            cases heq
            exact Or.inr ⟨hall c (by simp), x, rfl, rfl, fun e he ↦ hall e (by simp [he])⟩

section Members

variable {a b : Pattern α} {p : α → Bool} {s : List α} {m : Success α}

theorem mem_successes_empty : m ∈ (empty : Pattern α).successes s ↔ m = ⟨[], [], s⟩ := by
  simp [successes]

theorem mem_successes_one :
    m ∈ (one p).successes s ↔ ∃ c t, s = c :: t ∧ p c = true ∧ m = ⟨[c], [], t⟩ := by
  cases s with
  | nil => simp [successes]
  | cons c s => cases hc : p c <;> simp [successes, hc]

theorem mem_successes_many {greedy : Bool} :
    m ∈ (many greedy p).successes s ↔
      ∃ x y, s = x ++ y ∧ (∀ c ∈ x, p c = true) ∧ m = ⟨x, [], y⟩ := by
  simp only [successes, List.mem_map, Prod.exists, mem_splits_iff]
  constructor
  · rintro ⟨x, y, ⟨hs, hx⟩, rfl⟩
    exact ⟨x, y, hs, hx, rfl⟩
  · rintro ⟨x, y, hs, hx, rfl⟩
    exact ⟨x, y, ⟨hs, hx⟩, rfl⟩

theorem mem_successes_seq :
    m ∈ (seq a b).successes s ↔
      ∃ m₁ ∈ a.successes s, ∃ m₂ ∈ b.successes m₁.rest, m = m₁.append m₂ := by
  simp [successes, eq_comm]

theorem mem_successes_alt :
    m ∈ (alt a b).successes s ↔ m ∈ a.successes s ∨ m ∈ b.successes s := List.mem_append

theorem mem_successes_group :
    m ∈ (group a).successes s ↔
      ∃ m' ∈ a.successes s, m = { m' with groups := m'.text :: m'.groups } := by
  simp [successes, eq_comm]

/-- One or more characters, however many are wanted. -/
theorem mem_successes_one_many {greedy : Bool} :
    m ∈ (seq (one p) (many greedy p)).successes s ↔
      ∃ x y, s = x ++ y ∧ x ≠ [] ∧ (∀ c ∈ x, p c = true) ∧ m = ⟨x, [], y⟩ := by
  simp only [mem_successes_seq, mem_successes_one, mem_successes_many]
  constructor
  · rintro ⟨-, ⟨c, t, rfl, hc, rfl⟩, -, ⟨x, y, rfl, hx, rfl⟩, rfl⟩
    exact ⟨c :: x, y, rfl, by simp, by simpa [hc] using hx, rfl⟩
  · rintro ⟨x, y, rfl, hne, hx, rfl⟩
    obtain ⟨c, x, rfl⟩ := List.exists_cons_of_ne_nil hne
    exact ⟨_, ⟨c, x ++ y, rfl, hx c (by simp), rfl⟩, _,
      ⟨x, y, rfl, fun d hd ↦ hx d (by simp [hd]), rfl⟩, rfl⟩

theorem mem_successes_times {k : ℕ} :
    m ∈ (times k p).successes s ↔
      ∃ x y, s = x ++ y ∧ x.length = k ∧ (∀ c ∈ x, p c = true) ∧ m = ⟨x, [], y⟩ := by
  induction k generalizing s m with
  | zero =>
      simp only [times, List.replicate_zero, concat, mem_successes_empty, List.length_eq_zero_iff]
      constructor
      · rintro rfl
        exact ⟨[], s, rfl, rfl, by simp, rfl⟩
      · rintro ⟨x, y, rfl, rfl, -, rfl⟩
        rfl
  | succ k ih =>
      change m ∈ (seq (one p) (times k p)).successes s ↔ _
      simp only [mem_successes_seq, mem_successes_one, ih]
      constructor
      · rintro ⟨-, ⟨c, t, rfl, hc, rfl⟩, -, ⟨x, y, rfl, rfl, hx, rfl⟩, rfl⟩
        exact ⟨c :: x, y, rfl, rfl, by simpa [hc] using hx, rfl⟩
      · rintro ⟨x, y, rfl, hlength, hx, rfl⟩
        obtain ⟨c, x, rfl⟩ := List.exists_cons_of_length_eq_add_one hlength
        exact ⟨_, ⟨c, x ++ y, rfl, hx c (by simp), rfl⟩, _,
          ⟨x, y, rfl, by simpa using hlength, fun d hd ↦ hx d (by simp [hd]), rfl⟩, rfl⟩

theorem mem_successes_literal [DecidableEq α] {l : List α} :
    m ∈ (literal l).successes s ↔ ∃ t, s = l ++ t ∧ m = ⟨l, [], t⟩ := by
  induction l generalizing s m with
  | nil => simp [literal, concat, mem_successes_empty]
  | cons c l ih =>
      change m ∈ (seq (one (· = c)) (literal l)).successes s ↔ _
      simp only [mem_successes_seq, mem_successes_one, ih]
      constructor
      · rintro ⟨-, ⟨d, u, rfl, hd, rfl⟩, -, ⟨t, rfl, rfl⟩, rfl⟩
        obtain rfl : d = c := by simpa using hd
        exact ⟨t, rfl, rfl⟩
      · rintro ⟨t, rfl, rfl⟩
        exact ⟨_, ⟨c, l ++ t, rfl, by simp, rfl⟩, _, ⟨t, rfl, rfl⟩, rfl⟩

theorem successes_literal_eq_nil [DecidableEq α] {l : List α} (h : ¬l <+: s) :
    (literal l).successes s = [] := by
  rw [List.eq_nil_iff_forall_not_mem]
  intro m hm
  obtain ⟨t, rfl, -⟩ := mem_successes_literal.mp hm
  exact h (List.prefix_append l t)

theorem successes_seq_eq_nil (h : ∀ m ∈ a.successes s, b.successes m.rest = []) :
    (seq a b).successes s = [] := List.flatMap_eq_nil_iff.mpr fun m hm ↦ by rw [h m hm]; rfl

theorem successes_seq_eq_nil_of_left (h : a.successes s = []) : (seq a b).successes s = [] := by
  rw [successes, h, List.flatMap_nil]

end Members

/-! ## What is left of a text

Whether a pattern can lead from one rest of a text to another does not depend on the
order of the successes, so greedy and lazy items are alike.
-/

def Consumes (a : Pattern α) (s rest : List α) : Prop := ∃ m ∈ a.successes s, m.rest = rest

section Rests

variable {a : Pattern α} {as : List (Pattern α)} {p : α → Bool} {s rest : List α}

theorem consumes_nil : (concat []).Consumes s rest ↔ s = rest := by
  simp [Consumes, concat, mem_successes_empty]

theorem consumes_cons :
    (concat (a :: as)).Consumes s rest ↔
      ∃ mid, a.Consumes s mid ∧ (concat as).Consumes mid rest := by
  simp only [Consumes, concat, mem_successes_seq]
  constructor
  · rintro ⟨-, ⟨m, hm, m', hm', rfl⟩, rfl⟩
    exact ⟨m.rest, ⟨m, hm, rfl⟩, m', hm', rfl⟩
  · rintro ⟨-, ⟨m, hm, rfl⟩, m', hm', rfl⟩
    exact ⟨_, ⟨m, hm, m', hm', rfl⟩, rfl⟩

theorem consumes_group : (group a).Consumes s rest ↔ a.Consumes s rest := by
  simp only [Consumes, mem_successes_group]
  constructor
  · rintro ⟨-, ⟨m, hm, rfl⟩, rfl⟩
    exact ⟨m, hm, rfl⟩
  · rintro ⟨m, hm, rfl⟩
    exact ⟨_, ⟨m, hm, rfl⟩, rfl⟩

theorem consumes_literal [DecidableEq α] {l : List α} :
    (literal l).Consumes s rest ↔ s = l ++ rest := by
  simp [Consumes, mem_successes_literal]

theorem consumes_zeroOrMore :
    (zeroOrMore p).Consumes s rest ↔ ∃ x, (∀ c ∈ x, p c = true) ∧ s = x ++ rest := by
  simp only [Consumes, zeroOrMore, mem_successes_many]
  constructor
  · rintro ⟨-, ⟨x, y, rfl, hx, rfl⟩, rfl⟩
    exact ⟨x, hx, rfl⟩
  · rintro ⟨x, hx, rfl⟩
    exact ⟨_, ⟨x, rest, rfl, hx, rfl⟩, rfl⟩

theorem consumes_one_many {greedy : Bool} :
    (seq (one p) (many greedy p)).Consumes s rest ↔
      ∃ x, x ≠ [] ∧ (∀ c ∈ x, p c = true) ∧ s = x ++ rest := by
  simp only [Consumes, mem_successes_one_many]
  constructor
  · rintro ⟨-, ⟨x, y, rfl, hne, hx, rfl⟩, rfl⟩
    exact ⟨x, hne, hx, rfl⟩
  · rintro ⟨x, hne, hx, rfl⟩
    exact ⟨_, ⟨x, rest, rfl, hne, hx, rfl⟩, rfl⟩

theorem consumes_oneOrMore : (oneOrMore p).Consumes s rest ↔
    ∃ x, x ≠ [] ∧ (∀ c ∈ x, p c = true) ∧ s = x ++ rest := consumes_one_many

theorem consumes_oneOrMoreLazy : (oneOrMoreLazy p).Consumes s rest ↔
    ∃ x, x ≠ [] ∧ (∀ c ∈ x, p c = true) ∧ s = x ++ rest := consumes_one_many

end Rests

/-! ## The first success -/

section First

variable {a b : Pattern α} {p : α → Bool} {s : List α} {m m' : Success α}

theorem mem_of_first (h : a.first s = some m) : m ∈ a.successes s := List.mem_of_head? h

theorem first_eq_none_iff : a.first s = none ↔ a.successes s = [] := List.head?_eq_none_iff

/-- The first success of a concatenation is found after the successes of its first part that
cannot be continued were skipped. -/
theorem first_seq_of_skipped {skipped later : List (Success α)}
    (ha : a.successes s = skipped ++ m :: later)
    (hskipped : ∀ m ∈ skipped, b.successes m.rest = []) (hb : b.first m.rest = some m') :
    (seq a b).first s = some (m.append m') := by
  have hnil : skipped.flatMap (fun m ↦ (b.successes m.rest).map m.append) = [] :=
    List.flatMap_eq_nil_iff.mpr fun m hm ↦ by rw [hskipped m hm]; rfl
  rw [first] at hb
  rw [first, successes, ha, List.flatMap_append, hnil, List.nil_append, List.flatMap_cons,
    List.head?_append, List.head?_map, hb]
  rfl

theorem first_seq (ha : a.first s = some m) (hb : b.first m.rest = some m') :
    (seq a b).first s = some (m.append m') := by
  obtain ⟨later, hlater⟩ := List.head?_eq_some_iff.mp ha
  have hskipped : a.successes s = [] ++ m :: later := hlater
  exact first_seq_of_skipped hskipped (by simp) hb

theorem first_concat_cons {as : List (Pattern α)} (ha : a.first s = some m)
    (has : (concat as).first m.rest = some m') :
    (concat (a :: as)).first s = some (m.append m') := first_seq ha has

theorem first_one {c : α} (h : p c = true) : (one p).first (c :: s) = some ⟨[c], [], s⟩ := by
  simp [first, successes, h]

theorem first_alt_left (h : a.first s = some m) : (alt a b).first s = some m := by
  rw [first, successes, List.head?_append]
  rw [first] at h
  rw [h]
  rfl

theorem first_alt_right (h : a.successes s = []) : (alt a b).first s = b.first s := by
  rw [first, successes, h, List.nil_append, first]

theorem first_group (h : a.first s = some m) :
    (group a).first s = some { m with groups := m.text :: m.groups } := by
  rw [first] at h
  rw [first, successes, List.head?_map, h]
  rfl

theorem first_times {k : ℕ} {x : List α} (hlength : x.length = k)
    (hx : ∀ c ∈ x, p c = true) (y : List α) :
    (times k p).first (x ++ y) = some ⟨x, [], y⟩ := by
  subst hlength
  induction x with
  | nil => rfl
  | cons c x ih =>
      have hrest := ih fun d hd ↦ hx d (by simp [hd])
      exact first_seq (first_one (hx c (by simp))) hrest

theorem first_literal [DecidableEq α] (l s : List α) :
    (literal l).first (l ++ s) = some ⟨l, [], s⟩ := by
  induction l with
  | nil => rfl
  | cons c l ih => exact first_seq (first_one (by simp)) ih

/-- The text does not go on with a character that satisfies `p`. -/
def Stops (p : α → Bool) (s : List α) : Prop := ∀ c ∈ s.head?, p c = false

/-- A non-empty text of characters that satisfy `p`. -/
structure Block (p : α → Bool) (x : List α) : Prop where
  ne_nil : x ≠ []
  all : ∀ c ∈ x, p c = true

instance [DecidableEq α] (p : α → Bool) (x : List α) : Decidable (Block p x) :=
  decidable_of_iff (x ≠ [] ∧ x.all p = true)
    ⟨fun h ↦ ⟨h.1, List.all_eq_true.mp h.2⟩, fun h ↦ ⟨h.ne_nil, List.all_eq_true.mpr h.all⟩⟩

theorem Block.stops {q : α → Bool} {x : List α} (h : Block p x)
    (hq : ∀ c, p c = true → q c = false) (y : List α) : Stops q (x ++ y) := by
  obtain ⟨c, x, rfl⟩ := List.exists_cons_of_ne_nil h.ne_nil
  rintro d ⟨⟩
  exact hq c (h.all c (by simp))

theorem Stops.append {x : List α} (h : Stops p x) (hne : x ≠ []) (y : List α) :
    Stops p (x ++ y) := by
  rw [Stops, List.head?_append_of_ne_nil x hne]
  exact h

theorem splits_greedy {x y : List α} (hx : ∀ c ∈ x, p c = true) (hy : Stops p y) :
    (splits true p (x ++ y)).head? = some (x, y) := by
  induction x with
  | nil =>
      cases y with
      | nil => rfl
      | cons d y => simp [splits, hy d rfl]
  | cons c x ih =>
      have hrest := ih fun d hd ↦ hx d (by simp [hd])
      simp [splits, hx c (by simp), hrest]

/-- Two texts that go up to the first character satisfying `p` are the same. -/
theorem eq_of_append_eq_append {x x' y y' : List α} (hx : ∀ c ∈ x, p c = true)
    (hx' : ∀ c ∈ x', p c = true) (hy : Stops p y) (hy' : Stops p y') (h : x ++ y = x' ++ y') :
    x = x' ∧ y = y' := by
  have hsplit := splits_greedy hx hy
  rw [h, splits_greedy hx' hy'] at hsplit
  cases hsplit
  exact ⟨rfl, rfl⟩

theorem first_zeroOrMore {x y : List α} (hx : ∀ c ∈ x, p c = true) (hy : Stops p y) :
    (zeroOrMore p).first (x ++ y) = some ⟨x, [], y⟩ := by
  rw [first, zeroOrMore, successes, List.head?_map, splits_greedy hx hy]
  rfl

theorem first_oneOrMore {x y : List α} (hx : Block p x) (hy : Stops p y) :
    (oneOrMore p).first (x ++ y) = some ⟨x, [], y⟩ := by
  obtain ⟨hne, hall⟩ := hx
  obtain ⟨c, x, rfl⟩ := List.exists_cons_of_ne_nil hne
  have hrest : (zeroOrMore p).first (x ++ y) = some ⟨x, [], y⟩ :=
    first_zeroOrMore (fun d hd ↦ hall d (by simp [hd])) hy
  exact first_seq (first_one (hall c (by simp))) hrest

theorem splits_greedy_concat {x y : List α} {c : α} (hx : ∀ d ∈ x, p d = true) (hc : p c = true)
    (hy : Stops p y) :
    ∃ later, splits true p (x ++ c :: y) = (x ++ [c], y) :: (x, c :: y) :: later := by
  induction x with
  | nil =>
      cases y with
      | nil => exact ⟨[], by simp [splits, hc]⟩
      | cons d y => exact ⟨[], by simp [splits, hc, hy d rfl]⟩
  | cons d x ih =>
      obtain ⟨later, hlater⟩ := ih fun e he ↦ hx e (by simp [he])
      refine ⟨later.map (fun q ↦ (d :: q.1, q.2)) ++ [([], d :: (x ++ c :: y))], ?_⟩
      simp [splits, hx d (by simp), hlater]

/-- After the longest block the greedy item tries the one without its last character. -/
theorem successes_oneOrMore_concat {x y : List α} {c : α} (hx : Block p x) (hc : p c = true)
    (hy : Stops p y) :
    ∃ later, (oneOrMore p).successes (x ++ c :: y) =
      [⟨x ++ [c], [], y⟩] ++ ⟨x, [], c :: y⟩ :: later := by
  obtain ⟨hne, hall⟩ := hx
  obtain ⟨d, x, rfl⟩ := List.exists_cons_of_ne_nil hne
  obtain ⟨later, hlater⟩ := splits_greedy_concat (x := x) (fun e he ↦ hall e (by simp [he])) hc hy
  refine ⟨later.map (fun q ↦ ⟨d :: q.1, [], q.2⟩), ?_⟩
  simp [oneOrMore, successes, hall d (by simp), hlater, Success.append]

/-- The lazy splits come with the shorter ones first. -/
theorem splits_lazy {x y : List α} (hx : ∀ c ∈ x, p c = true) :
    ∃ skipped later, splits false p (x ++ y) = skipped ++ (x, y) :: later ∧
      ∀ q ∈ skipped, ∃ z, z ≠ [] ∧ x = q.1 ++ z ∧ q.2 = z ++ y := by
  induction x with
  | nil =>
      cases y with
      | nil => exact ⟨[], [], rfl, by simp⟩
      | cons d y =>
          cases hd : p d with
          | false => exact ⟨[], [], by simp [splits, hd], by simp⟩
          | true => exact ⟨[], _, by simp [splits, hd]; rfl, by simp⟩
  | cons c x ih =>
      obtain ⟨skipped, later, hsplits, hskipped⟩ := ih fun d hd ↦ hx d (by simp [hd])
      refine ⟨([], c :: (x ++ y)) :: skipped.map (fun q ↦ (c :: q.1, q.2)),
        later.map (fun q ↦ (c :: q.1, q.2)), ?_, ?_⟩
      · simp [splits, hx c (by simp), hsplits]
      · intro q hq
        rcases List.mem_cons.mp hq with rfl | hq
        · exact ⟨c :: x, by simp, rfl, rfl⟩
        · obtain ⟨q', hq', rfl⟩ := List.mem_map.mp hq
          obtain ⟨z, hz, rfl, hrest⟩ := hskipped q' hq'
          exact ⟨z, hz, rfl, hrest⟩

/-- A lazy group takes the shortest text after which the pattern can go on. -/
theorem first_group_lazy {x y : List α} (hx : Block p x)
    (hshortest : ∀ w z, w ≠ [] → z ≠ [] → x = w ++ z → b.successes (z ++ y) = [])
    (hb : b.first y = some m) :
    (seq (group (oneOrMoreLazy p)) b).first (x ++ y) = some (Success.append ⟨x, [x], y⟩ m) := by
  obtain ⟨hne, hall⟩ := hx
  obtain ⟨c, x, rfl⟩ := List.exists_cons_of_ne_nil hne
  obtain ⟨skipped, later, hsplits, hskipped⟩ := splits_lazy (y := y)
    (x := x) fun d hd ↦ hall d (by simp [hd])
  let wrap (q : List α × List α) : Success α := ⟨c :: q.1, [c :: q.1], q.2⟩
  have hgroup : (group (oneOrMoreLazy p)).successes (c :: x ++ y) =
      skipped.map wrap ++ wrap (x, y) :: later.map wrap := by
    simp only [successes, oneOrMoreLazy, List.cons_append, hall c (by simp), if_true, hsplits,
      List.flatMap_cons, List.flatMap_nil, List.append_nil, List.map_append, List.map_cons,
      List.map_map]
    rfl
  refine first_seq_of_skipped hgroup ?_ hb
  intro m hm
  obtain ⟨q, hq, rfl⟩ := List.mem_map.mp hm
  obtain ⟨z, hz, hxz, hrest⟩ := hskipped q hq
  rw [show (wrap q).rest = q.2 from rfl, hrest]
  exact hshortest (c :: q.1) z (by simp) hz (by rw [hxz]; rfl)

theorem successes_literal_seq [DecidableEq α] (l s : List α) :
    (seq (literal l) b).successes (l ++ s) = (b.successes s).map (Success.append ⟨l, [], s⟩) := by
  have hliteral : (literal l).successes (l ++ s) = [⟨l, [], s⟩] := by
    induction l with
    | nil => rfl
    | cons c l ih =>
        change (seq (one (· = c)) (literal l)).successes (c :: (l ++ s)) = _
        simp [successes, ih, Success.append]
  rw [successes, hliteral, List.flatMap_singleton]

theorem successes_literal_seq_ne_nil_iff [DecidableEq α] {l : List α} :
    (seq (literal l) b).successes s ≠ [] ↔ ∃ rest, s = l ++ rest ∧ b.successes rest ≠ [] := by
  constructor
  · intro h
    by_cases hinitial : l <+: s
    · obtain ⟨rest, rfl⟩ := hinitial
      rw [successes_literal_seq, ne_eq, List.map_eq_nil_iff] at h
      exact ⟨rest, rfl, h⟩
    · exact absurd (successes_seq_eq_nil_of_left (successes_literal_eq_nil hinitial)) h
  · rintro ⟨rest, rfl, h⟩
    rw [successes_literal_seq, ne_eq, List.map_eq_nil_iff]
    exact h

theorem first_literal_seq [DecidableEq α] (l s : List α) :
    (seq (literal l) b).first (l ++ s) = (b.first s).map (Success.append ⟨l, [], s⟩) := by
  rw [first, successes_literal_seq, List.head?_map, first]

/-- A lazy group matches if the pattern can go on after some block. -/
theorem successes_group_lazy_eq_nil_iff :
    (seq (group (oneOrMoreLazy p)) b).successes s = [] ↔
      ∀ x y, s = x ++ y → Block p x → b.successes y = [] := by
  constructor
  · intro h x y hs hx
    have hblock : ⟨x, [], y⟩ ∈ (oneOrMoreLazy p).successes s :=
      mem_successes_one_many.mpr ⟨x, y, hs, hx.ne_nil, hx.all, rfl⟩
    have hmem : ⟨x, [x], y⟩ ∈ (group (oneOrMoreLazy p)).successes s :=
      mem_successes_group.mpr ⟨_, hblock, rfl⟩
    rw [successes, List.flatMap_eq_nil_iff] at h
    exact List.map_eq_nil_iff.mp (h _ hmem)
  · intro h
    refine successes_seq_eq_nil fun m hm ↦ ?_
    obtain ⟨m', hm', rfl⟩ := mem_successes_group.mp hm
    obtain ⟨x, y, hs, hne, hx, rfl⟩ := mem_successes_one_many.mp hm'
    exact h x y hs ⟨hne, hx⟩

/-- What a lazy group matches is the shortest block after which the pattern can go on. -/
theorem shortest_of_first (h : (seq (group (oneOrMoreLazy p)) b).first s = some m) :
    ∃ x y m', s = x ++ y ∧ Block p x ∧ b.first y = some m' ∧
      m = Success.append ⟨x, [x], y⟩ m' ∧
      ∀ x' y', s = x' ++ y' → Block p x' → b.successes y' ≠ [] → x.length ≤ x'.length := by
  let candidates : Set (List α) := {x | Block p x ∧ ∃ y, s = x ++ y ∧ b.successes y ≠ []}
  have hcandidates : candidates.Nonempty := by
    by_contra hempty
    have hnil : (seq (group (oneOrMoreLazy p)) b).successes s = [] := by
      refine successes_group_lazy_eq_nil_iff.mpr fun x y hs hx ↦ ?_
      by_contra hy
      exact hempty ⟨x, hx, y, hs, hy⟩
    rw [first_eq_none_iff.mpr hnil] at h
    cases h
  obtain ⟨x, ⟨hx, y, hs, hy⟩, hmin⟩ :=
    (measure (List.length (α := α))).wf.has_min candidates hcandidates
  have hleast (x' y' : List α) (hs' : s = x' ++ y') (hx' : Block p x')
      (hy' : b.successes y' ≠ []) : x.length ≤ x'.length :=
    Nat.not_lt.mp (hmin x' ⟨hx', y', hs', hy'⟩)
  obtain ⟨m', hm'⟩ := Option.ne_none_iff_exists'.mp fun hnone ↦ hy (first_eq_none_iff.mp hnone)
  have hshortest (w z : List α) (hw : w ≠ []) (hz : z ≠ []) (hxwz : x = w ++ z) :
      b.successes (z ++ y) = [] := by
    by_contra hne
    have hblock : Block p w := ⟨hw, fun c hc ↦ hx.all c (by simp [hxwz, hc])⟩
    have hle := hleast w (z ++ y) (by rw [hs, hxwz, List.append_assoc]) hblock hne
    have hpos := List.length_pos_iff.mpr hz
    rw [hxwz, List.length_append] at hle
    omega
  have hfirst := first_group_lazy hx hshortest hm'
  rw [← hs, h] at hfirst
  exact ⟨x, y, m', hs, hx, hm', Option.some.inj hfirst, hleast⟩

end First

/-! ## The leftmost match -/

section Search

variable {a : Pattern α} {s : List α} {m : Success α}

theorem search_cons (c : α) (s : List α) :
    a.search (c :: s) = (a.first (c :: s)).or (a.search s) := rfl

theorem search_eq_none_iff :
    a.search s = none ↔ ∀ pre post, s = pre ++ post → a.successes post = [] := by
  induction s with
  | nil =>
      rw [search, first_eq_none_iff]
      constructor
      · intro h pre post hs
        obtain ⟨-, rfl⟩ := List.append_eq_nil_iff.mp hs.symm
        exact h
      · intro h
        exact h [] [] rfl
  | cons c s ih =>
      rw [search_cons, Option.or_eq_none_iff, first_eq_none_iff, ih]
      constructor
      · rintro ⟨hhere, hlater⟩ pre post hs
        cases pre with
        | nil =>
            obtain rfl : c :: s = post := hs
            exact hhere
        | cons d pre =>
            cases hs
            exact hlater pre post rfl
      · intro h
        exact ⟨h [] _ rfl, fun pre post hs ↦ h (c :: pre) post (by rw [hs]; rfl)⟩

/-- The match of a search starts at the leftmost position where the pattern matches. -/
theorem search_eq_some_iff :
    a.search s = some m ↔
      ∃ pre post, s = pre ++ post ∧ a.first post = some m ∧
        ∀ pre' post', s = pre' ++ post' → pre'.length < pre.length → a.successes post' = [] := by
  induction s with
  | nil =>
      rw [search]
      constructor
      · intro h
        exact ⟨[], [], rfl, h, by simp⟩
      · rintro ⟨pre, post, hs, h, -⟩
        obtain ⟨-, rfl⟩ := List.append_eq_nil_iff.mp hs.symm
        exact h
  | cons c s ih =>
      cases hhere : a.first (c :: s) with
      | some m₀ =>
          rw [search_cons, hhere, Option.some_or]
          constructor
          · intro h
            cases h
            exact ⟨[], c :: s, rfl, hhere, by simp⟩
          · rintro ⟨pre, post, hs, h, hleft⟩
            cases pre with
            | nil => rwa [← hhere, hs]
            | cons d pre =>
                have hnone := hleft [] (c :: s) rfl (by simp)
                rw [← first_eq_none_iff, hhere] at hnone
                cases hnone
      | none =>
          rw [search_cons, hhere, Option.none_or, ih]
          constructor
          · rintro ⟨pre, post, rfl, h, hleft⟩
            refine ⟨c :: pre, post, rfl, h, ?_⟩
            intro pre' post' hs hlt
            cases pre' with
            | nil =>
                obtain rfl : c :: (pre ++ post) = post' := hs
                exact first_eq_none_iff.mp hhere
            | cons d pre' =>
                obtain ⟨-, htail⟩ := List.cons.inj hs
                exact hleft pre' post' htail (by simpa using hlt)
          · rintro ⟨pre, post, hs, h, hleft⟩
            cases pre with
            | nil =>
                rw [List.nil_append] at hs
                rw [← hs, hhere] at h
                cases h
            | cons d pre =>
                cases hs
                refine ⟨pre, post, rfl, h, ?_⟩
                intro pre' post' hs hlt
                exact hleft (c :: pre') post' (by rw [hs]; rfl) (by simpa using hlt)

end Search

end Pattern

end Backtracking
