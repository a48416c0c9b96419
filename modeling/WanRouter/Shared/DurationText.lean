import WanRouter.Lib.MixedRadix
import WanRouter.Shared.Telegram

/-!
# The text of a duration

`format_duration` writes whole seconds in days, hours, minutes and seconds.  Days are
rounded towards minus infinity, so only their amount can be negative.  The parts can be
read back from the text, and no other canonical parts add up to the duration.
-/

namespace WanRouter

open MixedRadix UnicodeData

inductive DurationUnit where
  | day
  | hour
  | minute
  | second
  deriving DecidableEq

namespace DurationUnit

def letter : DurationUnit → Char
  | .day => 'd'
  | .hour => 'h'
  | .minute => 'm'
  | .second => 's'

def ofLetter? : Char → Option DurationUnit
  | 'd' => some .day
  | 'h' => some .hour
  | 'm' => some .minute
  | 's' => some .second
  | _ => none

def seconds : DurationUnit → ℤ
  | .day => 86400
  | .hour => 3600
  | .minute => 60
  | .second => 1

/-- The amounts of a unit below a day stay below this number. -/
def radix : DurationUnit → ℤ
  | .day => 0
  | .hour => 24
  | .minute => 60
  | .second => 60

theorem ofLetter?_letter (unit : DurationUnit) : ofLetter? unit.letter = some unit := by
  cases unit <;> rfl

theorem letter_ne_blank (unit : DurationUnit) : unit.letter ≠ ' ' := by
  cases unit <;> decide

end DurationUnit

abbrev DurationPart := Portion DurationUnit

def durations : Scale DurationUnit where
  top := .day
  lower := [.hour, .minute, .second]
  base := .second
  weight := DurationUnit.seconds
  radix := DurationUnit.radix
  nodup := by decide
  getLast?_eq_base := rfl
  weight_base := rfl
  weight_pos unit := by cases unit <;> decide
  graded := by simp [DurationUnit.seconds, DurationUnit.radix]

def partText (part : DurationPart) : String :=
  toString part.amount ++ part.unit.letter.toString

def renderParts (parts : List DurationPart) : String := " ".intercalate (parts.map partText)

def readNat? (text : List Char) : Option ℕ :=
  if !text.isEmpty && text.all Char.isDigit then some (Nat.ofDigitChars 10 text 0) else none

/-- The number that a text of digits shows, perhaps behind a sign. -/
def readInt? : List Char → Option ℤ
  | '-' :: digits => (readNat? digits).map fun n : ℕ ↦ -(n : ℤ)
  | digits => (readNat? digits).map fun n : ℕ ↦ (n : ℤ)

/-- An amount followed by the letter of its unit. -/
def readPart? (text : List Char) : Option DurationPart := do
  let unit ← DurationUnit.ofLetter? (← text.getLast?)
  let amount ← readInt? text.dropLast
  return ⟨amount, unit⟩

def readParts? (text : String) : Option (List DurationPart) :=
  (text.toList.splitOn ' ').mapM readPart?

/-! ## Reading the amounts back -/

theorem readNat?_of_isDigit {text : List Char} (hne : text ≠ [])
    (h : ∀ c ∈ text, c.isDigit = true) : readNat? text = some (Nat.ofDigitChars 10 text 0) := by
  apply if_pos
  rw [List.isEmpty_eq_false_iff.mpr hne, List.all_eq_true.mpr h]
  rfl

theorem readNat?_toDigits (n : ℕ) : readNat? (Nat.toDigits 10 n) = some n := by
  have hdigits : ∀ c ∈ Nat.toDigits 10 n, c.isDigit = true :=
    fun c hc ↦ Nat.isDigit_of_mem_toDigits (by omega) (by omega) hc
  rw [readNat?_of_isDigit Nat.toDigits_ne_nil hdigits, Nat.ofDigitChars_ten_toDigits]

theorem readInt?_of_isDigit {text : List Char} (h : ∀ c ∈ text, c.isDigit = true) :
    readInt? text = (readNat? text).map fun n : ℕ ↦ (n : ℤ) := by
  unfold readInt?
  split
  · exact absurd (h '-' List.mem_cons_self) (by decide)
  · rfl

theorem readInt?_toString (n : ℤ) : readInt? (toString n).toList = some n := by
  rw [Int.toString_eq_repr, Int.repr_eq_if]
  by_cases hn : 0 ≤ n
  · have hdigits : ∀ c ∈ Nat.toDigits 10 n.toNat, c.isDigit = true :=
      fun c hc ↦ Nat.isDigit_of_mem_toDigits (by omega) (by omega) hc
    rw [if_pos hn, Nat.toList_repr, readInt?_of_isDigit hdigits, readNat?_toDigits,
      Option.map_some, Int.toNat_of_nonneg hn]
  · rw [if_neg hn, String.toList_append, Nat.toList_repr]
    change (readNat? (Nat.toDigits 10 (-n).toNat)).map (fun m : ℕ ↦ -(m : ℤ)) = some n
    rw [readNat?_toDigits, Option.map_some, Int.toNat_of_nonneg (by omega), Int.neg_neg]

/-! ## Reading the parts back -/

theorem toList_partText (part : DurationPart) :
    (partText part).toList = (toString part.amount).toList ++ [part.unit.letter] := by
  rw [partText, String.toList_append, Char.toString_eq_singleton, String.toList_singleton]

theorem readPart?_partText (part : DurationPart) :
    readPart? (partText part).toList = some part := by
  rw [toList_partText, readPart?, List.getLast?_concat, List.dropLast_concat, readInt?_toString]
  simp [DurationUnit.ofLetter?_letter]

theorem blank_notMem_partText (part : DurationPart) : ' ' ∉ (partText part).toList := by
  rw [toList_partText]
  intro hmem
  rcases List.mem_append.mp hmem with hamount | hletter
  · have hspace := UnicodeData.ascii.isSpace_toString part.amount ' ' hamount
    exact absurd hspace (by decide)
  · exact part.unit.letter_ne_blank (List.mem_singleton.mp hletter).symm

theorem readParts?_renderParts {parts : List DurationPart} (hne : parts ≠ []) :
    readParts? (renderParts parts) = some parts := by
  have hsplit : (renderParts parts).toList.splitOn ' ' =
      (parts.map partText).map String.toList := by
    rw [renderParts, String.toList_intercalate]
    apply List.splitOn_intercalate
    · intro text htext
      simp only [List.mem_map, exists_exists_and_eq_and] at htext
      obtain ⟨part, -, rfl⟩ := htext
      exact blank_notMem_partText part
    · simpa using hne
  rw [readParts?, hsplit]
  clear hne hsplit
  induction parts with
  | nil => rfl
  | cons part parts ih =>
      rw [List.map_cons, List.map_cons, List.mapM_cons, readPart?_partText, ih]
      rfl

/-! ## The printed parts -/

/-- `if amount: parts.append(...)`. -/
theorem append_partText (parts : List DurationPart) (amount : ℤ) (unit : DurationUnit) :
    (if amount ≠ 0 then parts.map partText ++ [partText ⟨amount, unit⟩]
      else parts.map partText) = (parts ++ significant [⟨amount, unit⟩]).map partText := by
  by_cases hzero : amount = 0
  · rw [if_neg (not_not.mpr hzero), significant_cons_of_eq hzero, significant_nil,
      List.append_nil]
  · rw [if_pos hzero, significant_cons_of_ne hzero, significant_nil, List.map_append,
      List.map_singleton]

/-- The last part is also appended when there is no other. -/
theorem append_lastPartText (parts : List DurationPart) (amount : ℤ) (unit : DurationUnit) :
    (if amount ≠ 0 ∨ parts.map partText = [] then parts.map partText ++ [partText ⟨amount, unit⟩]
      else parts.map partText) =
      (if parts ++ significant [⟨amount, unit⟩] = [] then [⟨0, unit⟩]
        else parts ++ significant [⟨amount, unit⟩]).map partText := by
  by_cases hzero : amount = 0
  · rw [significant_cons_of_eq hzero, significant_nil, List.append_nil, hzero]
    by_cases hnone : parts = []
    · rw [hnone]
      rfl
    · have htexts : parts.map partText ≠ [] := List.map_eq_nil_iff.not.mpr hnone
      rw [if_neg (by simp [htexts]), if_neg hnone]
  · rw [significant_cons_of_ne hzero, significant_nil, if_pos (Or.inl hzero),
      if_neg (by simp), List.map_append, List.map_singleton]

theorem expand_durations (n : ℤ) :
    durations.expand durations.units n =
      [⟨n / 86400, .day⟩, ⟨n % 86400 / 3600, .hour⟩, ⟨n % 86400 % 3600 / 60, .minute⟩,
        ⟨n % 86400 % 3600 % 60, .second⟩] := by
  rw [← Int.ediv_one (n % 86400 % 3600 % 60)]
  rfl

/-- The parts are appended one after the other. -/
theorem significant_eq_append (days hours minutes secs : DurationPart) :
    significant [days, hours, minutes, secs] =
      [] ++ significant [days] ++ significant [hours] ++ significant [minutes] ++
        significant [secs] := by
  rw [List.nil_append, ← significant_append, ← significant_append, ← significant_append]
  rfl

/-- The text is that of the duration in mixed units. -/
theorem formatDuration_eq (n : ℤ) : formatDuration n = renderParts (durations.numeral n) := by
  have hbase : durations.base = .second := rfl
  rw [Scale.numeral, expand_durations, hbase, significant_eq_append, renderParts,
    ← append_lastPartText, ← append_partText, ← append_partText, ← append_partText]
  rfl

theorem formatDuration_injective : Function.Injective formatDuration := by
  intro n m htext
  apply durations.numeral_injective
  rw [formatDuration_eq, formatDuration_eq] at htext
  have hread := congrArg readParts? htext
  rw [readParts?_renderParts (durations.canonical_numeral n).ne_nil,
    readParts?_renderParts (durations.canonical_numeral m).ne_nil] at hread
  exact Option.some.inj hread

/-! ## The call -/

theorem appendPart_ok {condition : Prop} [Decidable condition] {amount : ℤ}
    (h : amount.natAbs < 10 ^ maxStrDigits) (parts : List String) (letter : String) :
    appendPart condition parts amount letter =
      .ok (if condition then parts ++ [toString amount ++ letter] else parts) := by
  rw [appendPart, str_of_lt h]
  split_ifs <;> rfl

theorem natAbs_lt_limit {amount : ℤ} (h : 0 ≤ amount ∧ amount < 100) :
    amount.natAbs < 10 ^ maxStrDigits := by
  have hpow : 10 ^ 2 ≤ 10 ^ maxStrDigits := Nat.pow_le_pow_right (by decide) (by decide)
  omega

/-- Only the days can have too many digits. -/
theorem formatDurationCall_eq_ok {n : ℤ} (h : (n / 86400).natAbs < 10 ^ maxStrDigits) :
    formatDurationCall n = .ok (formatDuration n) := by
  have hhours : (n % 86400 / 3600).natAbs < 10 ^ maxStrDigits := natAbs_lt_limit (by omega)
  have hminutes : (n % 86400 % 3600 / 60).natAbs < 10 ^ maxStrDigits :=
    natAbs_lt_limit (by omega)
  have hsecs : (n % 86400 % 3600 % 60).natAbs < 10 ^ maxStrDigits := natAbs_lt_limit (by omega)
  simp only [formatDurationCall, appendPart_ok h, appendPart_ok hhours, appendPart_ok hminutes,
    appendPart_ok hsecs]
  rfl

theorem formatDurationCall_eq_error {n : ℤ} (h : 10 ^ maxStrDigits ≤ (n / 86400).natAbs) :
    formatDurationCall n = .error strLimitError := by
  have hdays : n / 86400 ≠ 0 := by
    intro hzero
    rw [hzero] at h
    exact absurd h (by simp)
  simp only [formatDurationCall, appendPart, if_pos hdays, str_of_le h]
  rfl

theorem lt_limit_of_call {n : ℤ} {text : String} (h : formatDurationCall n = .ok text) :
    (n / 86400).natAbs < 10 ^ maxStrDigits := by
  by_contra hlimit
  rw [formatDurationCall_eq_error (Nat.not_lt.mp hlimit)] at h
  cases h

theorem eq_formatDuration_of_call {n : ℤ} {text : String}
    (h : formatDurationCall n = .ok text) : text = formatDuration n := by
  rw [formatDurationCall_eq_ok (lt_limit_of_call h)] at h
  exact (Except.ok.inj h).symm

/-- The call returns a text whose parts can be read back and are the only canonical ones that
add up to the duration, and no other duration has this text. -/
def PrintsExactly (n : ℤ) : Prop :=
  ∃ text parts, formatDurationCall n = .ok text ∧ text = renderParts parts ∧
    readParts? text = some parts ∧ durations.Canonical parts ∧ durations.total parts = n ∧
    (∀ others, durations.Canonical others → durations.total others = n → others = parts) ∧
    ∀ m, formatDurationCall m = .ok text → m = n

/-- Every duration is printed exactly whose number of days has a text. -/
theorem prints_exactly_iff (n : ℤ) :
    PrintsExactly n ↔ (n / 86400).natAbs < 10 ^ maxStrDigits := by
  constructor
  · rintro ⟨text, parts, hcall, -⟩
    exact lt_limit_of_call hcall
  · intro h
    have hcanonical := durations.canonical_numeral n
    refine ⟨formatDuration n, durations.numeral n, formatDurationCall_eq_ok h,
      formatDuration_eq n, ?_, hcanonical, durations.total_numeral n, ?_, ?_⟩
    · rw [formatDuration_eq]
      exact readParts?_renderParts hcanonical.ne_nil
    · rintro others hothers rfl
      exact (durations.numeral_total hothers).symm
    · intro m hcall
      apply formatDuration_injective
      exact (eq_formatDuration_of_call hcall).symm

/-- The number of days has 4301 digits. -/
theorem huge_duration_not_printed :
    formatDurationCall (86400 * 10 ^ maxStrDigits) = .error strLimitError ∧
      ¬PrintsExactly (86400 * 10 ^ maxStrDigits) := by
  have hdays : (86400 * 10 ^ maxStrDigits : ℤ) / 86400 = 10 ^ maxStrDigits :=
    Int.mul_ediv_cancel_left _ (by decide)
  have hcall : formatDurationCall (86400 * 10 ^ maxStrDigits) = .error strLimitError := by
    apply formatDurationCall_eq_error
    have hten : (10 : ℤ).natAbs = 10 := rfl
    rw [hdays, Int.natAbs_pow, hten]
  refine ⟨hcall, ?_⟩
  rintro ⟨text, parts, htext, -⟩
  rw [hcall] at htext
  cases htext

example : formatDuration (-1) = "-1d 23h 59m 59s" := by decide

/-- The difference of two clock readings is printed: a `timedelta` has less than `10^9` days. -/
theorem formatDurationCall_totalSeconds {delta : ℤ}
    (h : delta.natAbs < 86400 * 10 ^ 9 * 10 ^ 6) :
    formatDurationCall (totalSeconds delta) = .ok (formatDuration (totalSeconds delta)) := by
  apply formatDurationCall_eq_ok
  have hpow : 10 ^ 10 ≤ 10 ^ maxStrDigits := Nat.pow_le_pow_right (by decide) (by decide)
  have hseconds : (totalSeconds delta).natAbs < 86400 * 10 ^ 9 := by
    rw [totalSeconds, Int.natAbs_tdiv]
    apply Nat.div_lt_of_lt_mul
    rwa [mul_comm]
  have hsmall : (totalSeconds delta / 86400).natAbs < 10 ^ 10 := by omega
  exact hsmall.trans_le hpow

end WanRouter
