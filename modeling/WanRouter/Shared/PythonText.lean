import Mathlib.Data.Int.Notation
import Mathlib.Algebra.Group.Nat.Defs
import Mathlib.Data.List.DropRight

/-!
# Text operations of the interpreter

`str.isspace`, `\d`, `\w` and `str.lower` go by the Unicode tables that the
interpreter was built with.  The tables are a parameter; what the parsers rely on
are its fields, and on ASCII they are fixed.
-/

namespace WanRouter

def asciiSpace (c : Char) : Bool :=
  c.toNat = 32 ∨ (9 ≤ c.toNat ∧ c.toNat ≤ 13) ∨ (28 ≤ c.toNat ∧ c.toNat ≤ 31)

def asciiDigit (c : Char) : Option ℕ :=
  if 48 ≤ c.toNat ∧ c.toNat ≤ 57 then some (c.toNat - 48) else none

def asciiWord (c : Char) : Bool :=
  (48 ≤ c.toNat ∧ c.toNat ≤ 57) ∨ (65 ≤ c.toNat ∧ c.toNat ≤ 90) ∨ c.toNat = 95 ∨
    (97 ≤ c.toNat ∧ c.toNat ≤ 122)

structure UnicodeData where
  isSpace : Char → Bool
  isWord : Char → Bool
  digit? : Char → Option ℕ
  lower : List Char → List Char
  isSpace_ascii : ∀ c, c.toNat < 128 → isSpace c = asciiSpace c
  isWord_ascii : ∀ c, c.toNat < 128 → isWord c = asciiWord c
  digit?_ascii : ∀ c, c.toNat < 128 → digit? c = asciiDigit c
  lower_ascii : ∀ s, (∀ c ∈ s, c.toNat < 128) → lower s = s.map Char.toLower
  isWord_of_digit : ∀ c n, digit? c = some n → isWord c = true
  isSpace_of_isWord : ∀ c, isWord c = true → isSpace c = false

namespace UnicodeData

def isDigit (self : UnicodeData) (c : Char) : Bool := (self.digit? c).isSome

/-- `str.strip()`. -/
def strip (self : UnicodeData) (s : List Char) : List Char :=
  (s.dropWhile self.isSpace).rdropWhile self.isSpace

def maxStrDigits : ℕ := 4300

def intLimitError (digits : ℕ) : String :=
  "Exceeds the limit (" ++ toString maxStrDigits ++ " digits) for integer string conversion: " ++
    "value has " ++ toString digits ++
    " digits; use sys.set_int_max_str_digits() to increase the limit"

def digitsValue (self : UnicodeData) (s : List Char) : ℕ :=
  s.foldl (fun n c ↦ 10 * n + (self.digit? c).getD 0) 0

/-- `int(s)` for a text of digits, which raises a `ValueError` above the limit. -/
def int (self : UnicodeData) (s : List Char) : Except String ℕ :=
  if maxStrDigits < s.length then .error (intLimitError s.length) else .ok (self.digitsValue s)

def strLimitError : String :=
  "Exceeds the limit (" ++ toString maxStrDigits ++ " digits) for integer string conversion; " ++
    "use sys.set_int_max_str_digits() to increase the limit"

/-- `str(n)`, which raises a `ValueError` above the limit.  The sign is not counted. -/
def str (n : ℤ) : Except String String :=
  if maxStrDigits < (toString n.natAbs).length then .error strLimitError else .ok (toString n)

/-- The tables restricted to ASCII. -/
def ascii : UnicodeData where
  isSpace := asciiSpace
  isWord := asciiWord
  digit? := asciiDigit
  lower s := s.map Char.toLower
  isSpace_ascii _ _ := rfl
  isWord_ascii _ _ := rfl
  digit?_ascii _ _ := rfl
  lower_ascii _ _ := rfl
  isWord_of_digit c n h := by
    simp only [asciiDigit, Option.ite_none_right_eq_some] at h
    simp only [asciiWord, decide_eq_true_eq]
    omega
  isSpace_of_isWord c h := by
    simp only [asciiWord, decide_eq_true_eq] at h
    simp only [asciiSpace, decide_eq_false_iff_not]
    omega

/-! ## Numerals -/

theorem length_toString_le_iff (n : ℕ) :
    (toString n).length ≤ maxStrDigits ↔ n < 10 ^ maxStrDigits := by
  rw [← String.length_toList, Nat.toString_eq_repr, Nat.toList_repr]
  exact Nat.length_toDigits_le_iff (by decide) (by decide)

theorem str_of_lt {n : ℤ} (h : n.natAbs < 10 ^ maxStrDigits) : str n = .ok (toString n) :=
  if_neg (Nat.not_lt.mpr ((length_toString_le_iff _).mpr h))

theorem str_of_le {n : ℤ} (h : 10 ^ maxStrDigits ≤ n.natAbs) : str n = .error strLimitError :=
  if_pos (Nat.lt_of_not_le fun hle ↦ Nat.not_lt.mpr h ((length_toString_le_iff _).mp hle))

variable (u : UnicodeData) {c : Char} {s : List Char}

theorem isSpace_toString (y : ℤ) : ∀ c ∈ (toString y).toList, u.isSpace c = false := by
  have hdigits (n : ℕ) : ∀ c ∈ Nat.toDigits 10 n, u.isSpace c = false := by
    intro c hc
    have hdigit := Nat.isDigit_of_mem_toDigits (by omega) (by omega) hc
    simp only [Char.isDigit, Bool.and_eq_true, decide_eq_true_eq] at hdigit
    have hlow : 48 ≤ c.toNat := hdigit.1
    have hhigh : c.toNat ≤ 57 := hdigit.2
    rw [u.isSpace_ascii c (by omega), asciiSpace, decide_eq_false_iff_not]
    omega
  rw [Int.toString_eq_repr, Int.repr_eq_if]
  by_cases hneg : 0 ≤ y
  · rw [if_pos hneg, Nat.toList_repr]
    exact hdigits _
  · rw [if_neg hneg, String.toList_append, Nat.toList_repr]
    intro c hc
    rcases List.mem_append.mp hc with hc | hc
    · obtain rfl := List.mem_singleton.mp hc
      exact u.isSpace_ascii '-' (by decide)
    · exact hdigits _ c hc

/-! ## Blanks -/

theorem isSpace_of_isDigit (h : u.isDigit c = true) : u.isSpace c = false := by
  obtain ⟨n, hn⟩ := Option.isSome_iff_exists.mp h
  exact u.isSpace_of_isWord c (u.isWord_of_digit c n hn)

theorem isDigit_of_isSpace (h : u.isSpace c = true) : u.isDigit c = false := by
  cases hdigit : u.isDigit c with
  | false => rfl
  | true =>
      rw [u.isSpace_of_isDigit hdigit] at h
      exact h.symm

theorem dropWhile_append_of_head {p : Char → Bool} {x y : List Char}
    (hx : ∀ c ∈ x, p c = true) (hy : ∀ c ∈ y.head?, p c = false) :
    (x ++ y).dropWhile p = y := by
  induction x with
  | nil =>
      cases y with
      | nil => rfl
      | cons d y => simp [hy d rfl]
  | cons c x ih =>
      rw [List.cons_append, List.dropWhile_cons_of_pos (hx c (by simp))]
      exact ih fun d hd ↦ hx d (by simp [hd])

/-- Stripping takes the whitespace around a text off, and no more. -/
theorem strip_of_ends {lead trail : List Char} (hlead : ∀ c ∈ lead, u.isSpace c = true)
    (htrail : ∀ c ∈ trail, u.isSpace c = true) (hne : s ≠ [])
    (hfirst : ∀ c ∈ s.head?, u.isSpace c = false)
    (hlast : ∀ c ∈ s.getLast?, u.isSpace c = false) :
    u.strip (lead ++ (s ++ trail)) = s := by
  have hhead : (s ++ trail).head? = s.head? := List.head?_append_of_ne_nil s hne
  rw [strip, dropWhile_append_of_head hlead (hhead ▸ hfirst)]
  rw [← List.reverse_reverse (s ++ trail), List.rdropWhile_reverse, List.reverse_append,
    dropWhile_append_of_head, List.reverse_reverse]
  · simpa using htrail
  · rw [List.head?_reverse]
    exact hlast

end UnicodeData

end WanRouter
