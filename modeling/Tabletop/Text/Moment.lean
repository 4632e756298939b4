import Tabletop.Text.Decimal

/-!
# Moments

A date and a time of day, with the distance of its clock from universal
time if that is known, in the written form of ISO 8601 to the second.
-/

namespace Tabletop.Text

/-- **A moment** by the calendar and the clock. -/
structure Moment where
  /-- The year, in four digits. -/
  year : Nat
  /-- The month, from one. -/
  month : Nat
  /-- The day of the month, from one. -/
  day : Nat
  /-- The hour of the day, from zero. -/
  hour : Nat
  /-- The minute of the hour. -/
  minute : Nat
  /-- The second of the minute. -/
  second : Nat
  /-- How many minutes the clock is ahead of universal time, if known. -/
  ahead : Option Int
deriving DecidableEq

namespace Moment

/-- The distance of a clock from universal time: a sign, hours and minutes. A
clock that shows universal time is marked by the letter Z. -/
def zone (minutes : Int) : String :=
  if minutes = 0 then "Z"
  else
    let n := minutes.natAbs
    (if minutes < 0 then "-" else "+") ++ padded 2 (n / 60) ++ ":" ++ padded 2 (n % 60)

/-- **The written form of a moment.** -/
def written (m : Moment) : String :=
  padded 4 m.year ++ "-" ++ padded 2 m.month ++ "-" ++ padded 2 m.day ++ "T" ++
    padded 2 m.hour ++ ":" ++ padded 2 m.minute ++ ":" ++ padded 2 m.second ++
    (m.ahead.map zone).getD ""

end Moment

end Tabletop.Text
