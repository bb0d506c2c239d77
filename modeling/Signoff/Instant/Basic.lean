/-!
Instants of universal time on the Gregorian calendar. A day is a year and a place in the year, so
that the order of days is the order of two numbers, and the table of months only serves to read and
write.
-/

namespace Signoff

/-- An instant: a day, a second of the day, and the nanoseconds since. A leap second is the last
second of its minute with 10^9 nanoseconds or more. -/
structure Instant where
  year : Int
  /-- From 1, the first of January. -/
  dayOfYear : Nat
  second : Nat
  nanos : Nat
  deriving DecidableEq, Repr, Inhabited

namespace Instant

def isLeap (year : Int) : Bool := year % 4 == 0 && (year % 100 != 0 || year % 400 == 0)

/-- The days of the months, January first. -/
def monthDays (year : Int) : List Nat :=
  [31, if isLeap year then 29 else 28, 31, 30, 31, 30, 31, 31, 30, 31, 30, 31]

def yearDays (year : Int) : Nat := if isLeap year then 366 else 365

/-- The years that an instant can have. -/
def minYear : Int := -262143

def maxYear : Int := 262142

/-- The place in the year of a day of a month, when there is such a day. -/
def dayOfDate? (year : Int) (month day : Nat) : Option Nat :=
  if month = 0 then none
  else
    match (monthDays year)[month - 1]? with
    | none => none
    | some days =>
      if 1 ≤ day ∧ day ≤ days then
        some (((monthDays year).take (month - 1)).foldr (· + ·) 0 + day)
      else none

/-- The month and the day of the month at a place in the months that follow `month`. -/
def dateIn : List Nat → Nat → Nat → Nat × Nat
  | [], month, day => (month, day)
  | days :: rest, month, day => if day ≤ days then (month, day) else dateIn rest (month + 1) (day - days)

/-- The month and the day of the month at a place in the year. -/
def dateOfDay (year : Int) (dayOfYear : Nat) : Nat × Nat := dateIn (monthDays year) 1 dayOfYear

/-- The earlier of two instants first. -/
def compare (s t : Instant) : Ordering :=
  (Ord.compare s.year t.year).then <|
    (Ord.compare s.dayOfYear t.dayOfYear).then <|
      (Ord.compare s.second t.second).then (Ord.compare s.nanos t.nanos)

def secondsOfDay : Nat := 86400

/-- The same instant as told by a clock that is ahead of universal time by less than a day; none
when it leaves the years of the calendar. -/
def shiftBack? (t : Instant) (ahead : Int) : Option Instant :=
  let second : Int := t.second - ahead
  let shifted : Instant :=
    if second < 0 then
      let second := (second + secondsOfDay).toNat
      if t.dayOfYear ≤ 1 then
        { t with year := t.year - 1, dayOfYear := yearDays (t.year - 1), second := second }
      else { t with dayOfYear := t.dayOfYear - 1, second := second }
    else if (secondsOfDay : Int) ≤ second then
      let second := (second - secondsOfDay).toNat
      if yearDays t.year ≤ t.dayOfYear then
        { t with year := t.year + 1, dayOfYear := 1, second := second }
      else { t with dayOfYear := t.dayOfYear + 1, second := second }
    else { t with second := second.toNat }
  if minYear ≤ shifted.year ∧ shifted.year ≤ maxYear then some shifted else none

/-- The instant at the fields of a clock; second 60 is a leap second. -/
def ofFields? (year : Int) (month day hour minute second nanos : Nat) : Option Instant :=
  if minYear ≤ year ∧ year ≤ maxYear ∧ hour ≤ 23 ∧ minute ≤ 59 ∧ second ≤ 60 then
    (dayOfDate? year month day).map fun dayOfYear =>
      if second = 60 then ⟨year, dayOfYear, hour * 3600 + minute * 60 + 59, 1000000000 + nanos⟩
      else ⟨year, dayOfYear, hour * 3600 + minute * 60 + second, nanos⟩
  else none

end Instant
end Signoff
