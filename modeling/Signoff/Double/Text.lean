import Signoff.Double.Basic

/-!
Doubles and decimal text: a decimal is read as the nearest double, and a double is written with the
fewest digits that read back to it. `Style` says how those digits are laid out.
-/

namespace Signoff.Double

/-- A decimal point cannot move further than this without leaving the range of doubles. -/
def exponentBound : Int := 400

/-- The double nearest to `digits * 10^exponent`; none when it is past the largest one. -/
def ofDecimal? (negative : Bool) (digits : Nat) (exponent : Int) : Option Double :=
  if digits = 0 then some ⟨negative, 0⟩
  else
    let places : Int := (Nat.toDigits 10 digits).length + exponent
    if exponentBound < places then none
    else if places < -exponentBound then some ⟨negative, 0⟩
    else if 0 ≤ exponent then ofRatio? negative (digits * Nat.pow 10 exponent.toNat) 1
    else ofRatio? negative digits (Nat.pow 10 (-exponent).toNat)

/-- The size times ten to the 350, as a whole number: positive for every double but zero. -/
def scaled (magnitude : Nat) : Nat := magnitude * Nat.pow 10 350 / oneUnits

/-- The power of ten of the first significant digit of a size that is not zero. -/
def leadingPlace (magnitude : Nat) : Int := (Nat.toDigits 10 (scaled magnitude)).length - 351

/-- The size in steps of `10^place`, as a quotient of naturals. -/
def inSteps (magnitude : Nat) (place : Int) : Nat × Nat :=
  if 0 ≤ place then (magnitude, oneUnits * Nat.pow 10 place.toNat)
  else (magnitude * Nat.pow 10 (-place).toNat, oneUnits)

/-- Whether `steps * 10^place` reads back as the double of this size. -/
def readsBack (magnitude steps : Nat) (place : Int) : Bool :=
  let (num, den) :=
    if 0 ≤ place then (steps * Nat.pow 10 place.toNat * oneUnits, 1)
    else (steps * oneUnits, Nat.pow 10 (-place).toNat)
  roundUnits num den == magnitude

/-- The nearest decimal on the grid of `10^place` that reads back, if there is one: of the two
neighbours the nearer, of equally near ones the even. -/
def onGrid? (magnitude : Nat) (place : Int) : Option Nat :=
  let (num, den) := inSteps magnitude place
  let low := num / den
  let nearest := roundHalfEven num den
  let other := if nearest = low then low + 1 else low
  if readsBack magnitude nearest place then some nearest
  else if readsBack magnitude other place then some other
  else none

/-- Tries grids from coarse to fine, and takes what the first of them has that has something. -/
def searchGrid (found : Int → Option Nat) (otherwise : Int → Nat) (leading : Int) :
    Nat → Nat → Nat × Int
  | 0, tried => (otherwise (leading - tried), leading - tried)
  | left + 1, tried =>
    match found (leading - tried) with
    | some steps => (steps, leading - tried)
    | none => searchGrid found otherwise leading left (tried + 1)

/-- Drops trailing zeros, moving the place up for each. -/
def stripZeros (fuel : Nat) (steps : Nat) (place : Int) : Nat × Int :=
  match fuel with
  | 0 => (steps, place)
  | fuel + 1 =>
    if steps ≠ 0 ∧ steps % 10 = 0 then stripZeros fuel (steps / 10) (place + 1) else (steps, place)

/-- The fewest digits that read back, and the power of ten of the last of them; seventeen are always
enough. -/
def shortest (magnitude : Nat) : Nat × Int :=
  let found := searchGrid (onGrid? magnitude) (fun place => (inSteps magnitude place).1)
    (leadingPlace magnitude) 17 0
  stripZeros 20 found.1 found.2

/-- How the digits of a number are laid out. -/
structure Style where
  /-- Leading powers of ten that are written without an exponent; none means all of them. -/
  positional : Option (Int × Int)
  /-- Whether a whole number keeps one zero after the point. -/
  pointZero : Bool
  deriving DecidableEq, Repr

/-- Numbers in JSON: a whole number keeps `.0`, and exponents start at 1e16 and below 1e-5. -/
def Style.json : Style := ⟨some (-5, 15), true⟩

/-- Numbers in messages: always positional, whole numbers without a point. -/
def Style.plain : Style := ⟨none, false⟩

def zeros (n : Nat) : List Char := List.replicate n '0'

/-- Digits of which the last stands at `10^place`, without an exponent. -/
def positionalText (style : Style) (digits : List Char) (place : Int) : List Char :=
  if 0 ≤ place then
    digits ++ zeros place.toNat ++ (if style.pointZero then ['.', '0'] else [])
  else
    let after := (-place).toNat
    if digits.length ≤ after then '0' :: '.' :: (zeros (after - digits.length) ++ digits)
    else digits.take (digits.length - after) ++ '.' :: digits.drop (digits.length - after)

/-- One digit, the point, the rest, and a signed exponent. -/
def exponentText (digits : List Char) (leading : Int) : List Char :=
  let mantissa := match digits with
    | d :: e :: rest => d :: '.' :: e :: rest
    | ds => ds
  let sign := if leading < 0 then '-' else '+'
  mantissa ++ 'e' :: sign :: Nat.toDigits 10 leading.natAbs

/-- The text of a double in a style: the fewest digits that read back. -/
def text (style : Style) (x : Double) : String :=
  let body :=
    if x.magnitude = 0 then positionalText style ['0'] 0
    else
      let (steps, place) := shortest x.magnitude
      let digits := Nat.toDigits 10 steps
      let leading := place + digits.length - 1
      match style.positional with
      | none => positionalText style digits place
      | some (low, high) =>
        if low ≤ leading ∧ leading ≤ high then positionalText style digits place
        else exponentText digits leading
  String.ofList (if x.negative then '-' :: body else body)

end Signoff.Double
