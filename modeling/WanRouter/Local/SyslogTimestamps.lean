import WanRouter.Local.SyslogFields

/-!
# The year of a syslog timestamp

A line carries the month, the day and the time of day of its event, and the parser
adds the year of the reading of the clock.
-/

namespace WanRouter

open CivilCalendar Strptime

/-- The date of a number of seconds since the epoch. -/
def dateOf (e : ℤ) : CivilDate := civilOfDays (e / 86400)

variable {u : UnicodeData}

/-- The timestamp is written for the second `e`, the year left out. -/
structure SyslogTimestamp.Stamps (t : SyslogTimestamp u) (e : ℤ) : Prop where
  word : t.word = monthName (dateOf e).month.toNat
  day : Numeral (dateOf e).day.toNat t.day
  hour : Numeral (e % 86400 / 3600).toNat t.hour
  minute : Numeral (e % 3600 / 60).toNat t.minute
  second : Numeral (e % 60).toNat t.second

/-- The second of the same date and time of day in a given year. -/
def inYear (year e : ℤ) : ℤ :=
  daysOfCivil ⟨year, (dateOf e).month, (dateOf e).day⟩ * 86400 + e % 86400

theorem inYear_self (e : ℤ) : inYear (dateOf e).year e = e := by
  have hdays : daysOfCivil ⟨(dateOf e).year, (dateOf e).month, (dateOf e).day⟩ = e / 86400 :=
    daysOfCivil_civilOfDays (e / 86400)
  rw [inYear, hdays]
  omega

/-- Another year puts the same date and time of day at another second. -/
theorem year_of_inYear {year e : ℤ} (h : inYear year e = e) : year = (dateOf e).year := by
  have hself := inYear_self e
  rw [inYear] at h hself
  rcases Int.lt_trichotomy year (dateOf e).year with hlt | heq | hgt
  · have hdays := daysOfCivil_lt hlt (dateOf e).month (dateOf e).day
    omega
  · exact heq
  · have hdays := daysOfCivil_lt hgt (dateOf e).month (dateOf e).day
    omega

theorem dateOf_bounds (e : ℤ) :
    (1 ≤ (dateOf e).month ∧ (dateOf e).month ≤ 12) ∧
      1 ≤ (dateOf e).day ∧ (dateOf e).day ≤ 31 := by
  obtain ⟨hmonth, hday, hlast⟩ := civilOfDays_valid (e / 86400)
  have hlong (year month : ℤ) : daysInMonth year month ≤ 31 := by
    rw [daysInMonth]
    split_ifs <;> omega
  exact ⟨hmonth, hday, Int.le_trans hlast (hlong _ _)⟩

theorem datetime_dateOf (e : ℤ) {year : ℤ} (hyear : 1000 ≤ year ∧ year ≤ 9999) :
    datetime year.toNat (dateOf e).month.toNat (dateOf e).day.toNat (e % 86400 / 3600).toNat
        (e % 3600 / 60).toNat (e % 60).toNat =
      if (CivilDate.mk year (dateOf e).month (dateOf e).day).Valid then
        some (inYear year e * microsPerSecond)
      else none := by
  obtain ⟨hmonth, hday⟩ := dateOf_bounds e
  have hy : (year.toNat : ℤ) = year := Int.toNat_of_nonneg (by omega)
  have hm : ((dateOf e).month.toNat : ℤ) = (dateOf e).month := Int.toNat_of_nonneg (by omega)
  have hd : ((dateOf e).day.toNat : ℤ) = (dateOf e).day := Int.toNat_of_nonneg (by omega)
  have hhour : ((e % 86400 / 3600).toNat : ℤ) = e % 86400 / 3600 :=
    Int.toNat_of_nonneg (by omega)
  have hminute : ((e % 3600 / 60).toNat : ℤ) = e % 3600 / 60 := Int.toNat_of_nonneg (by omega)
  have hsecond : ((e % 60).toNat : ℤ) = e % 60 := Int.toNat_of_nonneg (by omega)
  have htime : e % 86400 / 3600 * 3600 + e % 3600 / 60 * 60 + e % 60 = e % 86400 := by omega
  rw [datetime, hy, hm, hd, hhour, hminute, hsecond]
  by_cases hvalid : (CivilDate.mk year (dateOf e).month (dateOf e).day).Valid
  · rw [if_pos hvalid, if_pos ⟨by omega, hvalid, by omega, by omega, by omega⟩, inYear]
    congr 2
    omega
  · rw [if_neg hvalid, if_neg fun h ↦ hvalid h.2.1]

/-- The parser reads a stamp as a time in the year that it puts before it. -/
theorem strptime_stamp {t : SyslogTimestamp u} {e : ℤ} (h : t.Stamps e) {year : ℤ}
    (hyear : 1000 ≤ year ∧ year ≤ 9999) :
    strptime u ((toString year).toList ++ ' ' :: t.text) =
      if (CivilDate.mk year (dateOf e).month (dateOf e).day).Valid then
        some (inYear year e * microsPerSecond)
      else none := by
  obtain ⟨hmonth, hday⟩ := dateOf_bounds e
  have hy : (year.toNat : ℤ) = year := Int.toNat_of_nonneg (by omega)
  rw [← datetime_dateOf e hyear, ← strptime_fields u (by omega) (by omega) (by omega) (by omega)
    (by omega) (by omega) t.block_blanks t.block_blanks' h.day h.hour h.minute h.second, hy,
    ← h.word]
  rfl

/-! ## The year of the receipt -/

theorem parseTimestamp_of_same_year {t : SyslogTimestamp u} {e now : ℤ} (h : t.Stamps e)
    (hyear : 1000 ≤ yearOf now ∧ yearOf now ≤ 9999) (hsame : yearOf now = (dateOf e).year)
    (later : ℤ) : parseTimestamp u now later t.text = e * microsPerSecond := by
  have hvalid : (CivilDate.mk (yearOf now) (dateOf e).month (dateOf e).day).Valid := by
    rw [hsame]
    exact civilOfDays_valid (e / 86400)
  rw [parseTimestamp, strptime_stamp h hyear, if_pos hvalid, Option.getD_some, hsame, inYear_self]

/-- A stamp is restored, whatever a second reading of the clock shows, only with the year of
the event at hand. -/
theorem same_year_of_parseTimestamp {t : SyslogTimestamp u} {e now : ℤ} (h : t.Stamps e)
    (hrestored : ∀ later, now ≤ later →
      parseTimestamp u now later t.text = e * microsPerSecond) :
    yearOf now = (dateOf e).year ∧ 1000 ≤ yearOf now ∧ yearOf now ≤ 9999 := by
  cases hread : strptime u ((toString (yearOf now)).toList ++ ' ' :: t.text) with
  | none =>
      -- the fallback cannot be right at two different readings
      have hnow := hrestored now (Int.le_refl now)
      have hnext := hrestored (now + 1) (by omega)
      rw [parseTimestamp, hread, Option.getD_none] at hnow hnext
      omega
  | some s =>
      have hyear := year_of_strptime u hread
      have hnow := hrestored now (Int.le_refl now)
      rw [parseTimestamp, hread, Option.getD_some] at hnow
      rw [strptime_stamp h hyear] at hread
      have hs : inYear (yearOf now) e * microsPerSecond = s := by
        split_ifs at hread
        exact Option.some.inj hread
      have hsecond : inYear (yearOf now) e = e := by
        rw [hnow] at hs
        exact Int.eq_of_mul_eq_mul_right (by decide) hs
      exact ⟨year_of_inYear hsecond, hyear⟩

/-- The time of an event is restored from its line exactly when the line is received in the
year of the event, and then it is not after the receipt. -/
theorem year_inference_iff (line : SyslogLine u) {e now : ℤ} (hstamps : line.timestamp.Stamps e)
    (hpast : e * microsPerSecond ≤ now) (raw : String) (lead trail : List Char)
    (hlead : ∀ c ∈ lead, u.isSpace c = true) (htrail : ∀ c ∈ trail, u.isSpace c = true)
    (hraw : raw.toList = lead ++ (line.text ++ trail)) :
    (∀ later, now ≤ later → ∃ event, parseSyslogMessage u now later raw = .ok (some event) ∧
        event.timestamp = e * microsPerSecond ∧ event.timestamp ≤ now) ↔
      yearOf now = (dateOf e).year ∧ 1000 ≤ yearOf now ∧ yearOf now ≤ 9999 := by
  have hparse (later : ℤ) := line.parse_text now later hlead htrail hraw
  constructor
  · intro hrestored
    refine same_year_of_parseTimestamp hstamps fun later hlater ↦ ?_
    obtain ⟨event, hevent, htime, -⟩ := hrestored later hlater
    have hsame : line.event now later raw = event :=
      Option.some.inj (Except.ok.inj ((hparse later).symm.trans hevent))
    rwa [← hsame, SyslogLine.event_timestamp] at htime
  · rintro ⟨hsame, hyear⟩ later -
    have htime : (line.event now later raw).timestamp = e * microsPerSecond := by
      rw [SyslogLine.event_timestamp, parseTimestamp_of_same_year hstamps hyear hsame]
    have hle : (line.event now later raw).timestamp ≤ now := htime.trans_le hpast
    exact ⟨line.event now later raw, hparse later, htime, hle⟩

/-- A line of the last second of 2025. -/
def newYearLine : SyslogLine .ascii where
  priority := "134".toList
  timestamp :=
    { word := "Dec".toList
      blanks := " ".toList
      day := "31".toList
      blanks' := " ".toList
      hour := "23".toList
      minute := "59".toList
      second := "59".toList
      block_word := by decide
      block_blanks := block_blank .ascii
      block_day := by decide
      block_blanks' := block_blank .ascii
      block_hour := by decide
      block_minute := by decide
      block_second := by decide }
  hostname := "router".toList
  tag := "SWITCH".toList
  message := "up".toList
  block_priority := by decide
  priority_limit := by decide
  block_hostname := by decide
  block_tag := by decide
  tag_colon := by decide
  tag_head := by rintro c ⟨⟩; rfl
  message_dot := List.all_eq_true.mp (by decide)
  message_head := by rintro c ⟨⟩; rfl
  message_last := by rintro c ⟨⟩; rfl

theorem newYearLine_stamps : newYearLine.timestamp.Stamps 1767225599 where
  word := by decide
  day := Or.inl (by decide)
  hour := Or.inl (by decide)
  minute := Or.inl (by decide)
  second := Or.inl (by decide)

/-- The line received at this reading gives an event of the last second of 2025. -/
def RestoredAt (now : ℤ) : Prop :=
  ∀ later, now ≤ later →
    ∃ event, parseSyslogMessage .ascii now later "<134>Dec 31 23:59:59 router SWITCH: up" =
        .ok (some event) ∧
      event.timestamp = 1767225599 * microsPerSecond ∧ event.timestamp ≤ now

/-- Received half a second later, in the same year, and again half a second into the next one. -/
theorem newYearLine_restored : RestoredAt 1767225599500000 ∧ ¬RestoredAt 1767225600500000 := by
  have hraw : "<134>Dec 31 23:59:59 router SWITCH: up".toList = [] ++ (newYearLine.text ++ []) :=
    by decide
  have hrestored {now : ℤ} (hpast : 1767225599 * microsPerSecond ≤ now) :=
    year_inference_iff newYearLine newYearLine_stamps hpast _ [] [] (List.forall_mem_nil _)
      (List.forall_mem_nil _) hraw
  exact ⟨(hrestored (by decide)).mpr (by decide), (hrestored (by decide)).not.mpr (by decide)⟩

/-- Received one second later the line is dated a year ahead. -/
theorem newYearLine_misdated :
    newYearLine.timestamp.Stamps 1767225599 ∧
      1767225599 * microsPerSecond ≤ 1767225600000000 ∧
      1767225600000000 < (1767225599 + 86400) * microsPerSecond ∧
      ∃ event, parseSyslogMessage .ascii 1767225600000000 1767225600000000
          (String.ofList newYearLine.text) = .ok (some event) ∧
        event.timestamp = 1798761599 * microsPerSecond ∧ 1767225600000000 < event.timestamp := by
  have hraw : (String.ofList newYearLine.text).toList = [] ++ (newYearLine.text ++ []) := by simp
  have hparse := newYearLine.parse_text 1767225600000000 1767225600000000
    (List.forall_mem_nil _) (List.forall_mem_nil _) hraw
  have htime : (newYearLine.event 1767225600000000 1767225600000000
      (String.ofList newYearLine.text)).timestamp = 1798761599 * microsPerSecond := by
    rw [SyslogLine.event_timestamp]
    decide
  refine ⟨newYearLine_stamps, by decide, by decide, _, hparse, htime, ?_⟩
  rw [htime]
  decide

end WanRouter
