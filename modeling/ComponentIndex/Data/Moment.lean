/-
**Dates and times.**

A moment is a day, a time of day, or both, the latter with or without an offset.  Days follow the
Gregorian calendar from the year 1 to the year 9999.

Main definitions:

* `ComponentIndex.Date`, `ComponentIndex.Clock`, `ComponentIndex.Moment` — the values;
* `ComponentIndex.Date.ofParts?` — a day of the calendar;
* `ComponentIndex.Moment.shown` — the text of a moment.
-/

import ComponentIndex.Text.Basic

set_option relaxedAutoImplicit false
set_option autoImplicit false

namespace ComponentIndex

/-- A day. -/
structure Date where
  /-- The year. -/
  year : Nat
  /-- The month, from 1 to 12. -/
  month : Nat
  /-- The day of the month. -/
  day : Nat
deriving DecidableEq

/-- A time of day. -/
structure Clock where
  /-- The hour. -/
  hour : Nat
  /-- The minute. -/
  minute : Nat
  /-- The second. -/
  second : Nat
  /-- The millionths of a second. -/
  micro : Nat
deriving DecidableEq

/-- A day, a time of day or both. -/
inductive Moment where
  /-- A day. -/
  | date (d : Date)
  /-- A time of day. -/
  | time (c : Clock)
  /-- A day and a time of day, with the offset from universal time in minutes if one is given. -/
  | dateTime (d : Date) (c : Clock) (offset : Option Int)
deriving DecidableEq

namespace Date

/-- Every fourth year is a leap year, of the centuries every fourth. -/
def isLeap (year : Nat) : Bool := year % 4 == 0 && (year % 100 != 0 || year % 400 == 0)

/-- The number of days of a month. -/
def daysIn (year month : Nat) : Nat :=
  if month = 2 then if isLeap year then 29 else 28
  else if month = 4 || month = 6 || month = 9 || month = 11 then 30
  else 31

/-- The day with a given year, month and day of the month, if the calendar has it. -/
def ofParts? (year month day : Nat) : Option Date :=
  if 1 ≤ year && year ≤ 9999 && 1 ≤ month && month ≤ 12 && 1 ≤ day && day ≤ daysIn year month then
    some ⟨year, month, day⟩
  else none

end Date

namespace Moment

/-- The numbers of a day. -/
def dateParts (d : Date) : List Nat := [d.year, d.month, d.day]

/-- The numbers of a time of day; seconds and their fraction are left out where they are zero. -/
def clockParts (c : Clock) : List Nat :=
  if c.micro ≠ 0 then [c.hour, c.minute, c.second, c.micro]
  else if c.second ≠ 0 then [c.hour, c.minute, c.second]
  else [c.hour, c.minute]

/-- Numbers between commas. -/
def listed (parts : List Nat) : Text := Text.join ", " (parts.map Text.ofNat)

/-- The text of an offset in minutes, as whole days and the seconds that are left. -/
def shownOffset (minutes : Int) : Text :=
  if minutes = 0 then "datetime.timezone.utc"
  else
    let seconds := minutes * 60
    let days := if seconds < 0 then Text.ofString "days=-1, seconds=" else Text.ofString "seconds="
    Text.ofString "datetime.timezone(datetime.timedelta(" ++ days ++ Text.ofNat (seconds % 86400).toNat ++
      Text.ofString "))"

/-- The text of a moment. -/
def shown : Moment → Text
  | date d => Text.ofString "datetime.date(" ++ listed (dateParts d) ++ Text.ofString ")"
  | time c => Text.ofString "datetime.time(" ++ listed (clockParts c) ++ Text.ofString ")"
  | dateTime d c offset =>
    Text.ofString "datetime.datetime(" ++ listed (dateParts d ++ clockParts c) ++
      (match offset with
       | none => []
       | some minutes => Text.ofString ", tzinfo=" ++ shownOffset minutes) ++
      Text.ofString ")"

end Moment

end ComponentIndex
