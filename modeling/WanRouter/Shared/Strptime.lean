import WanRouter.Lib.Backtracking
import WanRouter.Lib.CivilCalendar
import WanRouter.Shared.Clock
import WanRouter.Shared.PythonText
import Mathlib.Tactic.IntervalCases

/-!
# `datetime.strptime`

The model of `datetime.strptime(text, "%Y %b %d %H:%M:%S")`: the format is
compiled to a pattern, the pattern has to match the whole text, and the fields
have to make a date.  Every `ValueError` is `none`.
-/

namespace WanRouter

open Backtracking Pattern CivilCalendar

namespace Strptime

def monthAbbreviations : List (List Char) :=
  ["jan".toList, "feb".toList, "mar".toList, "apr".toList, "may".toList, "jun".toList,
    "jul".toList, "aug".toList, "sep".toList, "oct".toList, "nov".toList, "dec".toList]

def inRange (low high : Char) (c : Char) : Bool := low.toNat ≤ c.toNat ∧ c.toNat ≤ high.toNat

def two (p q : Char → Bool) : Pattern Char := seq (one p) (one q)

variable (u : UnicodeData)

def yearPattern : Pattern Char := times 4 u.isDigit

/-- The names of the months, in any case. -/
def monthPattern : Pattern Char :=
  oneOf (monthAbbreviations.map fun name ↦ concat (name.map fun x ↦ one (u.lower [·] = [x])))

/-- `3[0-1]|[1-2]\d|0[1-9]|[1-9]| [1-9]`. -/
def dayPattern : Pattern Char :=
  oneOf [two (· = '3') (inRange '0' '1'), two (inRange '1' '2') u.isDigit,
    two (· = '0') (inRange '1' '9'), one (inRange '1' '9'), two (· = ' ') (inRange '1' '9')]

/-- `2[0-3]|[0-1]\d|\d`. -/
def hourPattern : Pattern Char :=
  oneOf [two (· = '2') (inRange '0' '3'), two (inRange '0' '1') u.isDigit, one u.isDigit]

/-- `[0-5]\d|\d`. -/
def minutePattern : Pattern Char := oneOf [two (inRange '0' '5') u.isDigit, one u.isDigit]

/-- `6[0-1]|[0-5]\d|\d`. -/
def secondPattern : Pattern Char :=
  oneOf [two (· = '6') (inRange '0' '1'), two (inRange '0' '5') u.isDigit, one u.isDigit]

/-- What the format `%Y %b %d %H:%M:%S` is compiled to. -/
def formatPattern : Pattern Char :=
  concat [group (yearPattern u), oneOrMore u.isSpace, group (monthPattern u), oneOrMore u.isSpace,
    group (dayPattern u), oneOrMore u.isSpace, group (hourPattern u), literal [':'],
    group (minutePattern u), literal [':'], group (secondPattern u)]

/-- `datetime(...)` in UTC, in microseconds since the epoch. -/
def datetime (year month day hour minute second : ℕ) : Option ℤ :=
  if (1 ≤ year ∧ year ≤ 9999) ∧ (CivilDate.mk year month day).Valid ∧
      hour ≤ 23 ∧ minute ≤ 59 ∧ second ≤ 59 then
    some ((daysOfCivil ⟨year, month, day⟩ * 86400 + hour * 3600 + minute * 60 + second) *
      microsPerSecond)
  else none

/-- The position of the name in the list of months; an unknown name makes no date. -/
def monthNumber (name : List Char) : ℕ := monthAbbreviations.idxOf (u.lower name) + 1

def strptime (text : List Char) : Option ℤ :=
  match (formatPattern u).first text with
  | some ⟨_, [year, month, day, hour, minute, second], []⟩ =>
      datetime (u.digitsValue year) (monthNumber u month) (u.digitsValue day)
        (u.digitsValue hour) (u.digitsValue minute) (u.digitsValue second)
  | _ => none

example : strptime .ascii "2026 Feb  3 12:00:00".toList = some 1770120000000000 := by decide

example : strptime .ascii "2026 Feb 29 12:00:00".toList = none := by decide

/-! ## Numerals -/

/-- A number below 100 in one or two decimal digits. -/
def Numeral (n : ℕ) (text : List Char) : Prop :=
  (n < 100 ∧ text = [Nat.digitChar (n / 10), Nat.digitChar (n % 10)]) ∨
    (n < 10 ∧ text = [Nat.digitChar n])

theorem digit?_digitChar {k : ℕ} (h : k < 10) : u.digit? (Nat.digitChar k) = some k := by
  have hchar := Nat.toNat_digitChar_of_lt_ten h
  rw [u.digit?_ascii _ (by omega), asciiDigit, if_pos (by omega), hchar, Nat.add_sub_cancel_left]

theorem isDigit_digitChar {k : ℕ} (h : k < 10) : u.isDigit (Nat.digitChar k) = true := by
  rw [UnicodeData.isDigit, digit?_digitChar u h]
  rfl

theorem inRange_digitChar {a b k : ℕ} (ha : a < 10) (hb : b < 10) (hk : k < 10) :
    inRange (Nat.digitChar a) (Nat.digitChar b) (Nat.digitChar k) =
      decide (a ≤ k ∧ k ≤ b) := by
  rw [inRange, Nat.toNat_digitChar_of_lt_ten ha, Nat.toNat_digitChar_of_lt_ten hb,
    Nat.toNat_digitChar_of_lt_ten hk]
  congr 1
  simp only [eq_iff_iff]
  omega

theorem inRange_of_le {a b k : ℕ} (hb : b < 10) (h : a ≤ k ∧ k ≤ b) :
    inRange (Nat.digitChar a) (Nat.digitChar b) (Nat.digitChar k) = true := by
  rw [inRange_digitChar (by omega) hb (by omega)]
  exact decide_eq_true h

theorem not_inRange {a b k : ℕ} (ha : a < 10) (hb : b < 10) (hk : k < 10) (h : k < a ∨ b < k) :
    inRange (Nat.digitChar a) (Nat.digitChar b) (Nat.digitChar k) = false := by
  rw [inRange_digitChar ha hb hk]
  exact decide_eq_false (by omega)

theorem isDigit_of_inRange {a b : ℕ} (ha : a < 10) (hb : b < 10) {c : Char}
    (h : inRange (Nat.digitChar a) (Nat.digitChar b) c = true) : u.isDigit c = true := by
  simp only [inRange, Nat.toNat_digitChar_of_lt_ten ha, Nat.toNat_digitChar_of_lt_ten hb,
    decide_eq_true_eq] at h
  rw [UnicodeData.isDigit, u.digit?_ascii c (by omega), asciiDigit, if_pos (by omega)]
  rfl

theorem stops_inRange {a b : ℕ} (ha : a < 10) (hb : b < 10) {rest : List Char}
    (h : Stops u.isDigit rest) :
    Stops (inRange (Nat.digitChar a) (Nat.digitChar b)) rest := by
  intro c hc
  by_contra hin
  have hdigit := isDigit_of_inRange u ha hb (Bool.eq_true_of_not_eq_false hin)
  rw [h c hc] at hdigit
  cases hdigit

theorem digitsValue_numeral {n : ℕ} {text : List Char} (h : Numeral n text) :
    u.digitsValue text = n := by
  rcases h with ⟨hn, rfl⟩ | ⟨hn, rfl⟩
  · simp only [UnicodeData.digitsValue, List.foldl_cons, List.foldl_nil,
      digit?_digitChar u (show n / 10 < 10 by omega), digit?_digitChar u (Nat.mod_lt n (by omega)),
      Option.getD_some]
    omega
  · simp [UnicodeData.digitsValue, digit?_digitChar u hn]

/-! ## The fields -/

theorem first_two {p q : Char → Bool} {c d : Char} (hc : p c = true) (hd : q d = true)
    (rest : List Char) : (two p q).first (c :: d :: rest) = some ⟨[c, d], [], rest⟩ :=
  first_seq (first_one hc) (first_one hd)

theorem successes_two_of_first {p q : Char → Bool} {c : Char} (hc : p c = false)
    (rest : List Char) : (two p q).successes (c :: rest) = [] := by
  simp [two, successes, hc]

theorem successes_two_of_stops {p q : Char → Bool} (c : Char) {rest : List Char}
    (h : Stops q rest) : (two p q).successes (c :: rest) = [] := by
  cases rest with
  | nil => cases hc : p c <;> simp [two, successes, hc]
  | cons d rest =>
      have hd : q d = false := h d rfl
      cases hc : p c <;> simp [two, successes, hc, hd]

variable {n : ℕ} {text rest : List Char}

theorem first_minute (h : Numeral n text) (hn : n ≤ 59) (hrest : Stops u.isDigit rest) :
    (minutePattern u).first (text ++ rest) = some ⟨text, [], rest⟩ := by
  rcases h with ⟨h100, rfl⟩ | ⟨h10, rfl⟩
  · have htens : inRange '0' '5' (Nat.digitChar (n / 10)) = true :=
      inRange_of_le (a := 0) (b := 5) (by omega) (by omega)
    exact first_alt_left (first_two htens (isDigit_digitChar u (Nat.mod_lt n (by omega))) _)
  · apply (first_alt_right (successes_two_of_stops _ hrest)).trans
    exact first_alt_left (first_one (isDigit_digitChar u h10))

theorem first_second (h : Numeral n text) (hn : n ≤ 59) (hrest : Stops u.isDigit rest) :
    (secondPattern u).first (text ++ rest) = some ⟨text, [], rest⟩ := by
  refine (first_alt_right ?_).trans (first_minute u h hn hrest)
  rcases h with ⟨h100, rfl⟩ | ⟨h10, rfl⟩
  · have htens : n / 10 ≠ 6 := by omega
    exact successes_two_of_first (by simpa using htens) _
  · exact successes_two_of_stops _ (stops_inRange u (a := 0) (b := 1) (by omega) (by omega) hrest)

theorem first_hour (h : Numeral n text) (hn : n ≤ 23) (hrest : Stops u.isDigit rest) :
    (hourPattern u).first (text ++ rest) = some ⟨text, [], rest⟩ := by
  rcases h with ⟨h100, rfl⟩ | ⟨h10, rfl⟩
  · have hunits : n % 10 < 10 := Nat.mod_lt n (by omega)
    by_cases htwo : n / 10 = 2
    · have hlast : inRange '0' '3' (Nat.digitChar (n % 10)) = true :=
        inRange_of_le (a := 0) (b := 3) (by omega) (by omega)
      exact first_alt_left (first_two (by simpa using htwo) hlast _)
    · have htens : inRange '0' '1' (Nat.digitChar (n / 10)) = true :=
        inRange_of_le (a := 0) (b := 1) (by omega) (by omega)
      apply (first_alt_right (successes_two_of_first (by simpa using htwo) _)).trans
      exact first_alt_left (first_two htens (isDigit_digitChar u hunits) _)
  · apply (first_alt_right (successes_two_of_stops _
      (stops_inRange u (a := 0) (b := 3) (by omega) (by omega) hrest))).trans
    apply (first_alt_right (successes_two_of_stops _ hrest)).trans
    exact first_alt_left (first_one (isDigit_digitChar u h10))

theorem first_day (h : Numeral n text) (hn : 1 ≤ n ∧ n ≤ 31) (hrest : Stops u.isDigit rest) :
    (dayPattern u).first (text ++ rest) = some ⟨text, [], rest⟩ := by
  rcases h with ⟨h100, rfl⟩ | ⟨h10, rfl⟩
  · have hunits : n % 10 < 10 := Nat.mod_lt n (by omega)
    by_cases hthree : n / 10 = 3
    · have hlast : inRange '0' '1' (Nat.digitChar (n % 10)) = true :=
        inRange_of_le (a := 0) (b := 1) (by omega) (by omega)
      exact first_alt_left (first_two (by simpa using hthree) hlast _)
    · apply (first_alt_right (successes_two_of_first (by simpa using hthree) _)).trans
      by_cases hzero : n / 10 = 0
      · have hlast : inRange '1' '9' (Nat.digitChar (n % 10)) = true :=
          inRange_of_le (a := 1) (b := 9) (by omega) (by omega)
        have htens : inRange '1' '2' (Nat.digitChar (n / 10)) = false :=
          not_inRange (a := 1) (b := 2) (by omega) (by omega) (by omega) (by omega)
        apply (first_alt_right (successes_two_of_first htens _)).trans
        exact first_alt_left (first_two (by simpa using hzero) hlast _)
      · have htens : inRange '1' '2' (Nat.digitChar (n / 10)) = true :=
          inRange_of_le (a := 1) (b := 2) (by omega) (by omega)
        exact first_alt_left (first_two htens (isDigit_digitChar u hunits) _)
  · have hunits : inRange '1' '9' (Nat.digitChar n) = true :=
      inRange_of_le (a := 1) (b := 9) (by omega) (by omega)
    apply (first_alt_right (successes_two_of_stops _
      (stops_inRange u (a := 0) (b := 1) (by omega) (by omega) hrest))).trans
    apply (first_alt_right (successes_two_of_stops _ hrest)).trans
    apply (first_alt_right (successes_two_of_stops _
      (stops_inRange u (a := 1) (b := 9) (by omega) (by omega) hrest))).trans
    exact first_alt_left (first_one hunits)

/-! ## The month -/

/-- The abbreviations as a router writes them. -/
def monthNames : List (List Char) :=
  ["Jan".toList, "Feb".toList, "Mar".toList, "Apr".toList, "May".toList, "Jun".toList,
    "Jul".toList, "Aug".toList, "Sep".toList, "Oct".toList, "Nov".toList, "Dec".toList]

def monthName (month : ℕ) : List Char := monthNames.getD (month - 1) []

theorem lower_single {c : Char} (h : c.toNat < 128) : u.lower [c] = [c.toLower] :=
  u.lower_ascii [c] (by simpa using h)

theorem monthName_letters {m : ℕ} (hm : 1 ≤ m ∧ m ≤ 12) :
    monthName m ≠ [] ∧ ∀ c ∈ monthName m, c.toNat < 128 ∧ asciiWord c = true := by
  have hall : monthName m ≠ [] ∧
      (monthName m).all (fun c ↦ c.toNat < 128 ∧ asciiWord c = true) = true := by
    obtain ⟨h1, h2⟩ := hm
    interval_cases m <;> decide
  exact ⟨hall.1, fun c hc ↦ of_decide_eq_true (List.all_eq_true.mp hall.2 c hc)⟩

theorem monthNumber_monthName {m : ℕ} (hm : 1 ≤ m ∧ m ≤ 12) :
    monthNumber u (monthName m) = m := by
  rw [monthNumber, u.lower_ascii _ fun c hc ↦ ((monthName_letters hm).2 c hc).1]
  obtain ⟨h1, h2⟩ := hm
  interval_cases m <;> decide

theorem first_month {m : ℕ} (hm : 1 ≤ m ∧ m ≤ 12) (rest : List Char) :
    (monthPattern u).first (monthName m ++ rest) = some ⟨monthName m, [], rest⟩ := by
  obtain ⟨h1, h2⟩ := hm
  interval_cases m <;>
    simp [monthPattern, monthAbbreviations, monthName, monthNames, oneOf, concat, first,
      successes, lower_single, Success.append]

/-! ## The year -/

theorem toString_year {y : ℕ} (hy : 1000 ≤ y ∧ y ≤ 9999) :
    (toString (y : ℤ)).toList = [Nat.digitChar (y / 1000), Nat.digitChar (y / 100 % 10),
      Nat.digitChar (y / 10 % 10), Nat.digitChar (y % 10)] := by
  rw [Int.toString_eq_repr, Int.repr_eq_if, if_pos (by omega), Int.toNat_natCast, Nat.toList_repr,
    Nat.toDigits_of_base_le (by omega) (by omega), Nat.toDigits_of_base_le (by omega) (by omega),
    Nat.toDigits_of_base_le (by omega) (by omega), Nat.toDigits_of_lt_base (by omega)]
  simp only [Nat.div_div_eq_div_mul]
  rfl

/-- The characters of a numeral of four digits. -/
theorem isDigit_toString_year {y : ℕ} (hy : 1000 ≤ y ∧ y ≤ 9999) :
    ∀ c ∈ (toString (y : ℤ)).toList, u.isDigit c = true := by
  rw [toString_year hy]
  intro c hc
  simp only [List.mem_cons, List.not_mem_nil, or_false] at hc
  rcases hc with rfl | rfl | rfl | rfl <;> exact isDigit_digitChar u (by omega)

theorem first_year {y : ℕ} (hy : 1000 ≤ y ∧ y ≤ 9999) (rest : List Char) :
    (yearPattern u).first ((toString (y : ℤ)).toList ++ rest) =
      some ⟨(toString (y : ℤ)).toList, [], rest⟩ :=
  first_times (k := 4) (by rw [toString_year hy]; rfl) (isDigit_toString_year u hy) rest

theorem digitsValue_year {y : ℕ} (hy : 1000 ≤ y ∧ y ≤ 9999) :
    u.digitsValue (toString (y : ℤ)).toList = y := by
  rw [toString_year hy]
  simp only [UnicodeData.digitsValue, List.foldl_cons, List.foldl_nil,
    digit?_digitChar u (show y / 1000 < 10 by omega),
    digit?_digitChar u (show y / 100 % 10 < 10 by omega),
    digit?_digitChar u (show y / 10 % 10 < 10 by omega),
    digit?_digitChar u (show y % 10 < 10 by omega), Option.getD_some]
  omega

theorem toString_year_digits {y : ℤ} (hdigits : ∀ c ∈ (toString y).toList, u.isDigit c = true)
    (hlength : (toString y).toList.length = 4) : 1000 ≤ y ∧ y ≤ 9999 := by
  rw [Int.toString_eq_repr, Int.repr_eq_if] at hdigits hlength
  by_cases hneg : 0 ≤ y
  · rw [if_pos hneg, Nat.toList_repr] at hlength
    have hle := (Nat.length_toDigits_le_iff (b := 10) (n := y.toNat) (k := 4) (by omega)
      (by omega)).mp (by omega)
    have hgt := mt (Nat.length_toDigits_le_iff (b := 10) (n := y.toNat) (k := 3) (by omega)
      (by omega)).mpr (by omega)
    omega
  · rw [if_neg hneg] at hdigits
    have hminus := hdigits '-' (by simp)
    rw [UnicodeData.isDigit, u.digit?_ascii _ (by decide)] at hminus
    cases hminus

/-! ## The whole text -/

theorem isSpace_blank : u.isSpace ' ' = true := u.isSpace_ascii ' ' (by decide)

theorem block_blank : Block u.isSpace [' '] := ⟨by simp, by simpa using isSpace_blank u⟩

theorem stops_isDigit_cons {c : Char} (h : c.toNat < 128 ∧ asciiDigit c = none)
    (rest : List Char) : Stops u.isDigit (c :: rest) := by
  rintro d ⟨⟩
  rw [UnicodeData.isDigit, u.digit?_ascii c h.1, h.2, Option.isSome_none]

theorem stops_isDigit_colon (rest : List Char) : Stops u.isDigit (':' :: rest) :=
  stops_isDigit_cons u (by decide) rest

theorem Numeral.block (h : Numeral n text) : Block u.isDigit text := by
  rcases h with ⟨hn, rfl⟩ | ⟨hn, rfl⟩
  · refine ⟨by simp, fun c hc ↦ ?_⟩
    rcases List.mem_cons.mp hc with rfl | hc
    · exact isDigit_digitChar u (by omega)
    · obtain rfl := List.mem_singleton.mp hc
      exact isDigit_digitChar u (by omega)
  · refine ⟨by simp, fun c hc ↦ ?_⟩
    obtain rfl := List.mem_singleton.mp hc
    exact isDigit_digitChar u hn

theorem block_monthName {m : ℕ} (hm : 1 ≤ m ∧ m ≤ 12) : Block u.isWord (monthName m) := by
  refine ⟨(monthName_letters hm).1, fun c hc ↦ ?_⟩
  obtain ⟨hascii, hword⟩ := (monthName_letters hm).2 c hc
  rw [u.isWord_ascii c hascii, hword]

theorem strptime_of_first {text : List Char} {m : Success Char}
    {year month day hour minute second : List Char} (h : (formatPattern u).first text = some m)
    (hgroups : m.groups = [year, month, day, hour, minute, second]) (hrest : m.rest = []) :
    strptime u text = datetime (u.digitsValue year) (monthNumber u month) (u.digitsValue day)
      (u.digitsValue hour) (u.digitsValue minute) (u.digitsValue second) := by
  obtain ⟨whole, groups, rest⟩ := m
  simp only at hgroups hrest
  subst hgroups hrest
  rw [strptime, h]

/-- The fields of a stamp are what the format reads back, with the year put before it. -/
theorem strptime_fields {year month day hour minute second : ℕ}
    (hyear : 1000 ≤ year ∧ year ≤ 9999) (hmonth : 1 ≤ month ∧ month ≤ 12)
    (hday : 1 ≤ day ∧ day ≤ 31) (hhour : hour ≤ 23) (hminute : minute ≤ 59)
    (hsecond : second ≤ 59)
    {blanks blanks' dayText hourText minuteText secondText : List Char}
    (hblanks : Block u.isSpace blanks) (hblanks' : Block u.isSpace blanks')
    (hdayText : Numeral day dayText) (hhourText : Numeral hour hourText)
    (hminuteText : Numeral minute minuteText) (hsecondText : Numeral second secondText) :
    strptime u ((toString (year : ℤ)).toList ++ ([' '] ++ (monthName month ++ (blanks ++
      (dayText ++ (blanks' ++ (hourText ++ ([':'] ++ (minuteText ++ ([':'] ++
        secondText)))))))))) =
      datetime year month day hour minute second := by
  have hnone : (concat []).first [] = some (⟨[], [], []⟩ : Success Char) := rfl
  have hend : Stops u.isDigit [] := by
    rintro c ⟨⟩
  have htime := first_concat_cons (first_group (first_hour u hhourText hhour
      (stops_isDigit_colon u _)))
    (first_concat_cons (first_literal [':'] _)
      (first_concat_cons (first_group (first_minute u hminuteText hminute
          (stops_isDigit_colon u _)))
        (first_concat_cons (first_literal [':'] _)
          (first_concat_cons (first_group (first_second u hsecondText hsecond hend)) hnone))))
  have hdate := first_concat_cons (first_group (first_month u hmonth _))
    (first_concat_cons
      (first_oneOrMore hblanks ((hdayText.block u).stops (fun _ ↦ u.isSpace_of_isDigit) _))
      (first_concat_cons
        (first_group (first_day u hdayText hday (hblanks'.stops (fun _ ↦ u.isDigit_of_isSpace) _)))
        (first_concat_cons
          (first_oneOrMore hblanks' ((hhourText.block u).stops (fun _ ↦ u.isSpace_of_isDigit) _))
          htime)))
  have hmatch := first_concat_cons (first_group (first_year u hyear _))
    (first_concat_cons (first_oneOrMore (block_blank u)
      ((block_monthName u hmonth).stops u.isSpace_of_isWord _)) hdate)
  have hfields := strptime_of_first u hmatch rfl rfl
  rw [digitsValue_year u hyear, monthNumber_monthName u hmonth, digitsValue_numeral u hdayText,
    digitsValue_numeral u hhourText, digitsValue_numeral u hminuteText,
    digitsValue_numeral u hsecondText] at hfields
  rwa [List.append_nil] at hfields

/-- A date is read only with a year of four digits before it. -/
theorem year_of_strptime {y t : ℤ} {rest : List Char}
    (h : strptime u ((toString y).toList ++ ' ' :: rest) = some t) : 1000 ≤ y ∧ y ≤ 9999 := by
  have hfirst : (formatPattern u).first ((toString y).toList ++ ' ' :: rest) ≠ none := by
    intro hnone
    rw [strptime, hnone] at h
    cases h
  obtain ⟨m, hm⟩ := Option.ne_none_iff_exists'.mp hfirst
  obtain ⟨m₁, hyear, m₂, hspace, -⟩ := mem_successes_seq.mp (mem_of_first hm)
  obtain ⟨m', hdigits, rfl⟩ := mem_successes_group.mp hyear
  obtain ⟨x, t, htext, hlength, hx, rfl⟩ := (mem_successes_times (k := 4)).mp hdigits
  obtain ⟨m₃, hspace, m₄, -, -⟩ := mem_successes_seq.mp hspace
  obtain ⟨blanks, t', hrest, hne, hblanks, -⟩ := mem_successes_one_many.mp hspace
  simp only at hrest
  subst hrest
  -- the year and the text of four digits both go up to the first blank
  have hstops : Stops (fun c ↦ !u.isSpace c) (' ' :: rest) := by
    rintro c ⟨⟩
    exact congrArg not (isSpace_blank u)
  have hstops' : Stops (fun c ↦ !u.isSpace c) (blanks ++ t') :=
    Block.stops ⟨hne, hblanks⟩ (fun c hc ↦ by rw [hc, Bool.not_true]) t'
  have hsame := eq_of_append_eq_append
    (fun c hc ↦ by rw [u.isSpace_toString y c hc, Bool.not_false])
    (fun c hc ↦ by rw [u.isSpace_of_isDigit (hx c hc), Bool.not_false]) hstops hstops' htext
  rw [← hsame.1] at hlength hx
  exact toString_year_digits u hx hlength

end Strptime

end WanRouter
