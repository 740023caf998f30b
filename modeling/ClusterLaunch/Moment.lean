import ClusterLaunch.Text.Digits

/-!
Moments in time, and the stamps that show them: the date and the time of day in
numbers of fixed width, largest part first, so that stamps sort as the moments
do. Dates are those of the Gregorian calendar, also before it was introduced.
-/

namespace ClusterLaunch

/-- A moment: microseconds since the beginning of the year zero, Greenwich time. -/
structure Moment where
  micros : Nat
  deriving DecidableEq, Repr

namespace Moment

def microsPerSecond : Nat := 1000000

def secondsPerDay : Nat := 86400

/-- The days before a year, leap years counted. -/
def daysBefore (year : Nat) : Nat :=
  365 * year + (year + 3) / 4 - (year + 99) / 100 + (year + 399) / 400

/-- The year that a day belongs to: four hundred years have 146097 days, so the
quotient is at most one year away. -/
def yearOf (day : Nat) : Nat :=
  let near := day * 400 / 146097
  if daysBefore (near + 1) ≤ day then near + 1
  else if daysBefore near ≤ day then near
  else near - 1

def isLeap (year : Nat) : Bool :=
  year % 4 == 0 && (year % 100 != 0 || year % 400 == 0)

def monthLengths (leap : Bool) : List Nat :=
  [31, if leap then 29 else 28, 31, 30, 31, 30, 31, 31, 30, 31, 30, 31]

/-- The month and the day in it, both from one, of a day in the months from
number `month` on. -/
def monthAndDay (month : Nat) : List Nat → Nat → Nat × Nat
  | [], day => (month, day + 1)
  | length :: rest, day =>
      if day < length then (month, day + 1) else monthAndDay (month + 1) rest (day - length)

def date (day : Nat) : List Char :=
  let year := yearOf day
  let (month, inMonth) := monthAndDay 1 (monthLengths (isLeap year)) (day - daysBefore year)
  Text.padded 10 4 year ++ Text.padded 10 2 month ++ Text.padded 10 2 inMonth

/-- The time of day in seconds, as six digits. -/
def clock (second : Nat) : List Char :=
  Text.padded 10 2 (second / 3600) ++ Text.padded 10 2 (second / 60 % 60) ++
    Text.padded 10 2 (second % 60)

def stamp (m : Moment) : List Char :=
  let second := m.micros / microsPerSecond
  date (second / secondsPerDay) ++ '-' :: clock (second % secondsPerDay) ++
    '.' :: Text.padded 10 6 (m.micros % microsPerSecond)

/-- The moment that is a number of microseconds after the beginning of 1970. -/
def sinceEpoch (micros : Nat) : Moment :=
  ⟨micros + daysBefore 1970 * secondsPerDay * microsPerSecond⟩

end Moment

end ClusterLaunch
