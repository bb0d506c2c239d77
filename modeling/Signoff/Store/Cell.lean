import Signoff.Double.Reading

/-!
Cells of tables. A column prefers one kind of value, and text that reads as such a value becomes one;
anything else stays what it is, so readers have to say what they can read.
-/

namespace Signoff.Store

/-- What stands in a cell. -/
inductive Cell where
  | null
  | integer (n : Int)
  | real (x : Double)
  | text (s : String)
  | blob (bytes : List UInt8)
  deriving DecidableEq, Repr

namespace Cell

/-- A double in a cell; zero has no sign there. -/
def ofDouble (x : Double) : Cell := .real (if x.magnitude = 0 then .zero else x)

def ofBool (b : Bool) : Cell := .integer (if b then 1 else 0)

def ofInt? : Option Int → Cell
  | some n => .integer n
  | none => .null

def ofText? : Option String → Cell
  | some s => .text s
  | none => .null

def text? : Cell → Option String
  | .text s => some s
  | _ => none

def integer? : Cell → Option Int
  | .integer n => some n
  | _ => none

def real? : Cell → Option Double
  | .real x => some x
  | _ => none

/-- Nothing first, then numbers, text and bytes. -/
def rank : Cell → Nat
  | .null => 0
  | .integer _ => 1
  | .real _ => 1
  | .text _ => 2
  | .blob _ => 3

/-- The value of a number, in units of the smallest double. -/
def units : Cell → Int
  | .integer n => n * Double.oneUnits
  | .real x => x.toInt
  | _ => 0

/-- The order of cells. -/
def compare (a b : Cell) : Ordering :=
  (Ord.compare a.rank b.rank).then <|
    match a, b with
    | .text s, .text t => Ord.compare s t
    | .blob s, .blob t => Ord.compare (s.map (·.toNat)) (t.map (·.toNat))
    | a, b => Ord.compare a.units b.units

/-- Equality that an index sees: nothing equals nothing. -/
def clashes (a b : Cell) : Bool := a != .null && b != .null && compare a b == .eq

/-- The kind of value that a column prefers. -/
inductive Affinity where
  | text
  | integer
  | real
  deriving DecidableEq, Repr

/-- Whole numbers that an integer cell holds: signed ones of 64 bits. -/
def holdsInt (n : Int) : Bool := -0x8000000000000000 ≤ n && n ≤ 0x7fffffffffffffff

/-- The number that a text is in full, blank ends aside: whole if it is written so and fits. -/
def number? (s : String) : Option Cell :=
  let cs := (s.toList.dropWhile isSpace).reverse.dropWhile isSpace |>.reverse
  let (negative, digits) := match cs with
    | '-' :: rest => (true, rest)
    | '+' :: rest => (false, rest)
    | rest => (false, rest)
  (Double.numeral? digits).bind fun n =>
    let value : Int := Double.digitsValue n.whole
    let value := if negative then -value else value
    if n.fraction.isEmpty && !digits.any isPointOrExponent && holdsInt value then
      some (.integer value)
    else
      (Double.ofDecimal? negative (Double.digitsValue (n.whole ++ n.fraction))
        (n.exponent - n.fraction.length)).map .real
where
  isSpace (c : Char) : Bool := c == ' ' || (9 ≤ c.toNat && c.toNat ≤ 13)
  isPointOrExponent (c : Char) : Bool := c == '.' || c == 'e' || c == 'E'

/-- The whole number that a double is, if an integer cell holds it. -/
def whole? (x : Double) : Option Int :=
  let n := x.toInt / Double.oneUnits
  if n * Double.oneUnits = x.toInt && holdsInt n then some n else none

/-- What becomes of a text that is put into a column. -/
def put (affinity : Affinity) (s : String) : Cell :=
  match affinity, number? s with
  | .text, _ => .text s
  | _, none => .text s
  | .integer, some (.real x) => match whole? x with
    | some n => .integer n
    | none => .real x
  | .integer, some c => c
  | .real, some (.integer n) => .ofDouble (.ofInt n)
  | .real, some (.real x) => .ofDouble x
  | .real, some c => c

end Cell
end Signoff.Store
