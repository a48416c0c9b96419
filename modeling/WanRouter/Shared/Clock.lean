import WanRouter.Lib.CivilCalendar

/-!
# Clock readings

A reading of `datetime.now(UTC)` is an integer number of microseconds since the
epoch, the resolution of the `datetime` type, and a `timedelta` is a difference
of two readings.
-/

namespace WanRouter

open CivilCalendar

def microsPerSecond : ℤ := 1000000

/-- `int(delta.total_seconds())`: whole seconds, rounded towards zero.  The microseconds are
exact here, where `total_seconds()` is a float; the two agree below `2^34` seconds, since the
rounding of such a float does not reach the next whole second. -/
def totalSeconds (delta : ℤ) : ℤ := delta.tdiv microsPerSecond

def pad2 (n : ℤ) : String := if n < 10 then "0" ++ toString n else toString n

/-- `now.strftime('%Y-%m-%d %H:%M:%S UTC')`. -/
def strftimeUtc (now : ℤ) : String :=
  let seconds := now / microsPerSecond
  let date := civilOfDays (seconds / 86400)
  let timeOfDay := seconds % 86400
  toString date.year ++ "-" ++ pad2 date.month ++ "-" ++ pad2 date.day ++ " " ++
    pad2 (timeOfDay / 3600) ++ ":" ++ pad2 (timeOfDay % 3600 / 60) ++ ":" ++
    pad2 (timeOfDay % 60) ++ " UTC"

example : strftimeUtc 1770120000000000 = "2026-02-03 12:00:00 UTC" := by decide

end WanRouter
