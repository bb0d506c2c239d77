/-!
Finite double-precision numbers as exact values. A double is a sign and a whole number of units of
2^-1074, the smallest positive double, so that comparison is comparison of integers and rounding is
one division of naturals.
-/

namespace Signoff

/-- A finite double: its sign and its size in units of 2^-1074. -/
structure Double where
  negative : Bool
  magnitude : Nat
  deriving DecidableEq, Repr, Inhabited

namespace Double

/-- The number of binary digits of a natural; zero has none. -/
def bitLength (n : Nat) : Nat := if n = 0 then 0 else Nat.log2 n + 1

/-- The quotient rounded to the nearest whole number, halves to the even one. -/
def roundHalfEven (num den : Nat) : Nat :=
  let q := num / den
  let twice := 2 * (num % den)
  if twice < den then q else if den < twice then q + 1 else q + q % 2

-- Powers are `Nat.pow` by name: what `^` is elaborated to depends on what is imported.

/-- The distance between neighbouring doubles at a size of `units` units. -/
def spacing (units : Nat) : Nat := Nat.pow 2 (bitLength units - 53)

/-- The nearest multiple of the spacing at the size of the quotient, halves to the even multiple. -/
def roundUnits (num den : Nat) : Nat :=
  let step := spacing (num / den)
  roundHalfEven num (den * step) * step

/-- One, counted in units. -/
def oneUnits : Nat := Nat.pow 2 1074

/-- Sizes from here on are past the largest double. -/
def overflowUnits : Nat := Nat.pow 2 2098

/-- The double nearest to `num / den`; none when it is past the largest one. -/
def ofRatio? (negative : Bool) (num den : Nat) : Option Double :=
  let units := roundUnits (num * oneUnits) den
  if units < overflowUnits then some ⟨negative, units⟩ else none

/-- The double nearest to an integer of machine size. -/
def ofInt (n : Int) : Double := ⟨n < 0, roundUnits (n.natAbs * oneUnits) 1⟩

def zero : Double := ⟨false, 0⟩

def one : Double := ⟨false, oneUnits⟩

/-- One half. -/
def half : Double := ⟨false, Nat.pow 2 1073⟩

/-- The signed number of units: both zeros give the same. -/
def toInt (x : Double) : Int := if x.negative then -(x.magnitude : Int) else x.magnitude

/-- Equality of values: the two zeros are equal. -/
def same (x y : Double) : Bool := x.toInt == y.toInt

def lt (x y : Double) : Bool := x.toInt < y.toInt

def le (x y : Double) : Bool := x.toInt ≤ y.toInt

def compare (x y : Double) : Ordering := Ord.compare x.toInt y.toInt

/-- Whether a number lies between nought and one. -/
def inUnit (x : Double) : Bool := zero.le x && x.le one

theorem same_iff {x y : Double} : x.same y = true ↔ x.toInt = y.toInt := by
  simp [same]

end Double
end Signoff
