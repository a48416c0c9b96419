import WanRouter.Shared.TextParts

/-!
# The text of a time

The second that `strftime` prints can be read back from its text.  The year is not
padded, so the text is split at its separators and not at fixed places.
-/

namespace WanRouter

open CivilCalendar

/-! ## Amounts -/

/-- The digits of an amount that has no sign. -/
theorem toList_toString {n : ℤ} (h : 0 ≤ n) :
    (toString n).toList = Nat.toDigits 10 n.toNat := by
  rw [Int.toString_eq_repr, Int.repr_eq_if, if_pos h, Nat.toList_repr]

theorem isDigit_toString {n : ℤ} (h : 0 ≤ n) : ∀ c ∈ (toString n).toList, c.isDigit = true := by
  rw [toList_toString h]
  exact fun c hc ↦ Nat.isDigit_of_mem_toDigits (by omega) (by omega) hc

theorem isDigit_pad2 {n : ℤ} (h : 0 ≤ n) : ∀ c ∈ (pad2 n).toList, c.isDigit = true := by
  rw [pad2]
  split_ifs
  · intro c hc
    rw [String.toList_append] at hc
    rcases List.mem_append.mp hc with hc | hc
    · obtain rfl := List.mem_singleton.mp hc
      rfl
    · exact isDigit_toString h c hc
  · exact isDigit_toString h

theorem notMem_of_isDigit {c : Char} {text : List Char} (h : ∀ d ∈ text, d.isDigit = true)
    (hc : c.isDigit = false) : c ∉ text := by
  intro hmem
  rw [h c hmem] at hc
  cases hc

theorem readInt?_pad2 {n : ℤ} (h : 0 ≤ n) : readInt? (pad2 n).toList = some n := by
  by_cases hn : n < 10
  · have htext : (pad2 n).toList = '0' :: Nat.toDigits 10 n.toNat := by
      rw [pad2, if_pos hn, String.toList_append, toList_toString h]
      rfl
    have hdigits := isDigit_pad2 h
    rw [htext] at hdigits
    rw [htext, readInt?_of_isDigit hdigits, readNat?_of_isDigit (List.cons_ne_nil _ _) hdigits,
      Nat.ofDigitChars_cons, Nat.mul_zero, Nat.zero_add, Nat.sub_self,
      Nat.ofDigitChars_ten_toDigits, Option.map_some, Int.toNat_of_nonneg h]
  · rw [pad2, if_neg hn]
    exact readInt?_toString n

/-! ## Times -/

/-- The second that a text shows. -/
def readTime? (text : List Char) : Option ℤ :=
  match text.splitOn ' ' with
  | [date, clock, _] =>
      match date.splitOn '-', clock.splitOn ':' with
      | [year, month, day], [hour, minute, second] => do
          let days := daysOfCivil ⟨← readInt? year, ← readInt? month, ← readInt? day⟩
          return days * 86400 + (← readInt? hour) * 3600 + (← readInt? minute) * 60 +
            (← readInt? second)
      | _, _ => none
  | _ => none

/-- The reading lies in a year of the common era. -/
def InCalendar (now : ℤ) : Prop := 0 ≤ (civilOfDays (now / microsPerSecond / 86400)).year

instance (now : ℤ) : Decidable (InCalendar now) := Int.decLe _ _

def dateParts (date : CivilDate) : List String :=
  [toString date.year, pad2 date.month, pad2 date.day]

def clockParts (timeOfDay : ℤ) : List String :=
  [pad2 (timeOfDay / 3600), pad2 (timeOfDay % 3600 / 60), pad2 (timeOfDay % 60)]

def timeParts (now : ℤ) : List String :=
  ["-".intercalate (dateParts (civilOfDays (now / microsPerSecond / 86400))),
    ":".intercalate (clockParts (now / microsPerSecond % 86400)), "UTC"]

theorem strftimeUtc_eq (now : ℤ) : strftimeUtc now = " ".intercalate (timeParts now) := by
  apply String.toList_injective
  simp [strftimeUtc, timeParts, dateParts, clockParts, String.toList_append]

theorem isDigit_dateParts {date : CivilDate} (hyear : 0 ≤ date.year) (hvalid : date.Valid) :
    ∀ part ∈ dateParts date, ∀ c ∈ part.toList, c.isDigit = true := by
  obtain ⟨hmonth, hday, -⟩ := hvalid
  simp only [dateParts, List.forall_mem_cons, List.not_mem_nil, false_imp_iff, implies_true,
    and_true]
  exact ⟨isDigit_toString hyear, isDigit_pad2 (by omega), isDigit_pad2 (by omega)⟩

theorem isDigit_clockParts {timeOfDay : ℤ} (h : 0 ≤ timeOfDay) :
    ∀ part ∈ clockParts timeOfDay, ∀ c ∈ part.toList, c.isDigit = true := by
  simp only [clockParts, List.forall_mem_cons, List.not_mem_nil, false_imp_iff, implies_true,
    and_true]
  exact ⟨isDigit_pad2 (by omega), isDigit_pad2 (by omega), isDigit_pad2 (by omega)⟩

theorem notMem_timeParts {c : Char} (hdigit : c.isDigit = false) (hdash : c ∉ "-".toList)
    (hcolon : c ∉ ":".toList) (hzone : c ∉ "UTC".toList) {now : ℤ} (h : InCalendar now) :
    ∀ part ∈ timeParts now, c ∉ part.toList := by
  have hdate := isDigit_dateParts h (civilOfDays_valid _)
  have hclock := isDigit_clockParts (by omega : 0 ≤ now / microsPerSecond % 86400)
  simp only [timeParts, List.forall_mem_cons, List.not_mem_nil, false_imp_iff, implies_true,
    and_true]
  refine ⟨?_, ?_, hzone⟩
  · exact notMem_intercalate hdash fun part hpart ↦ notMem_of_isDigit (hdate part hpart) hdigit
  · exact notMem_intercalate hcolon fun part hpart ↦ notMem_of_isDigit (hclock part hpart) hdigit

theorem oneLine_pad2 (n : ℤ) : OneLine (pad2 n) := by
  rw [pad2]
  split_ifs
  · exact OneLine.append (by decide) (oneLine_toString n)
  · exact oneLine_toString n

theorem oneLine_strftimeUtc (now : ℤ) : OneLine (strftimeUtc now) := by
  rw [strftimeUtc_eq]
  apply notMem_intercalate (by decide)
  simp only [timeParts, List.forall_mem_cons]
  refine ⟨notMem_intercalate (by decide) ?_, notMem_intercalate (by decide) ?_, by decide⟩
  · simp only [dateParts, List.forall_mem_cons]
    exact ⟨oneLine_toString _, oneLine_pad2 _, oneLine_pad2 _, by simp⟩
  · simp only [clockParts, List.forall_mem_cons]
    exact ⟨oneLine_pad2 _, oneLine_pad2 _, oneLine_pad2 _, by simp⟩

/-- The text of a time shows its second. -/
theorem readTime?_strftimeUtc {now : ℤ} (h : InCalendar now) :
    readTime? (strftimeUtc now).toList = some (now / microsPerSecond) := by
  have htext : (strftimeUtc now).toList.splitOn ' ' = (timeParts now).map String.toList := by
    rw [strftimeUtc_eq]
    exact splitOn_intercalate_toList (c := ' ')
      (notMem_timeParts (by decide) (by decide) (by decide) (by decide) h) (List.cons_ne_nil _ _)
  have hvalid := civilOfDays_valid (now / microsPerSecond / 86400)
  have hdays := daysOfCivil_civilOfDays (now / microsPerSecond / 86400)
  rw [InCalendar] at h
  rw [readTime?, htext, timeParts]
  clear htext
  generalize now / microsPerSecond = seconds at *
  generalize civilOfDays (seconds / 86400) = date at *
  have hdate : ("-".intercalate (dateParts date)).toList.splitOn '-' =
      [(toString date.year).toList, (pad2 date.month).toList, (pad2 date.day).toList] :=
    splitOn_intercalate_toList (c := '-') (fun part hpart ↦
      notMem_of_isDigit (isDigit_dateParts h hvalid part hpart) (by decide)) (List.cons_ne_nil _ _)
  have hclock : (":".intercalate (clockParts (seconds % 86400))).toList.splitOn ':' =
      [(pad2 (seconds % 86400 / 3600)).toList, (pad2 (seconds % 86400 % 3600 / 60)).toList,
        (pad2 (seconds % 86400 % 60)).toList] :=
    splitOn_intercalate_toList (c := ':') (fun part hpart ↦
      notMem_of_isDigit (isDigit_clockParts (by omega) part hpart) (by decide))
      (List.cons_ne_nil _ _)
  obtain ⟨hmonth, hday, -⟩ := hvalid
  simp only [List.map_cons, List.map_nil, hdate, hclock, readInt?_toString,
    readInt?_pad2 (by omega : 0 ≤ date.month), readInt?_pad2 (by omega : 0 ≤ date.day),
    readInt?_pad2 (by omega : 0 ≤ seconds % 86400 / 3600),
    readInt?_pad2 (by omega : 0 ≤ seconds % 86400 % 3600 / 60),
    readInt?_pad2 (by omega : 0 ≤ seconds % 86400 % 60)]
  change some (daysOfCivil date * 86400 + _ + _ + _) = _
  rw [hdays]
  congr 1
  omega

end WanRouter
