import Signoff.Instant.Basic

/-!
The RFC 3339 text of an instant, in universal time.
-/

namespace Signoff.Instant

/-- The last `width` decimal digits of a number, zeros in front. -/
def padded : Nat → Nat → List Char
  | 0, _ => []
  | width + 1, n => padded width (n / 10) ++ [Nat.digitChar (n % 10)]

/-- Four digits; years outside of them have a sign and as many digits as they need. -/
def yearText (year : Int) : List Char :=
  if 0 ≤ year ∧ year ≤ 9999 then padded 4 year.toNat
  else
    let digits := Nat.toDigits 10 year.natAbs
    (if year < 0 then '-' else '+') :: (List.replicate (4 - digits.length) '0' ++ digits)

/-- How many digits a fraction of a second gets. -/
inductive Fraction where
  /-- None, three, six or nine, whichever are enough. -/
  | asNeeded
  /-- All nine. -/
  | nine

/-- A fraction of a second, with its point. -/
def fractionText (fraction : Fraction) (nanos : Nat) : List Char :=
  match fraction with
  | .nine => '.' :: padded 9 nanos
  | .asNeeded =>
    if nanos = 0 then []
    else if nanos % 1000000 = 0 then '.' :: padded 3 (nanos / 1000000)
    else if nanos % 1000 = 0 then '.' :: padded 6 (nanos / 1000)
    else '.' :: padded 9 nanos

/-- The characters of an instant. -/
def chars (fraction : Fraction) (t : Instant) : List Char :=
  let (month, day) := dateOfDay t.year t.dayOfYear
  let leap := 1000000000 ≤ t.nanos
  let second := t.second % 60 + if leap then 1 else 0
  let nanos := if leap then t.nanos - 1000000000 else t.nanos
  yearText t.year ++ '-' :: padded 2 month ++ '-' :: padded 2 day
    ++ 'T' :: padded 2 (t.second / 3600) ++ ':' :: padded 2 (t.second / 60 % 60)
    ++ ':' :: padded 2 second ++ fractionText fraction nanos ++ ['Z']

/-- The text of an instant for people and for JSON. -/
def text (t : Instant) : String := String.ofList (t.chars .asNeeded)

/-- The text of an instant in tables, where texts have to sort as the instants do. -/
def sortableText (t : Instant) : String := String.ofList (t.chars .nine)

end Signoff.Instant
