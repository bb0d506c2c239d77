import Signoff.Double.Text
import Signoff.Text.Blank

/-!
Numbers in free text: an optional sign and digits with an optional point and exponent, or one of
the words for what no double holds.
-/

namespace Signoff.Double

/-- What a numeral means. -/
inductive Reading where
  | nan
  | infinite (negative : Bool)
  | finite (x : Double)
  deriving DecidableEq, Repr

/-- The digits of a numeral: before the point, after it, and the exponent. -/
structure Numeral where
  whole : List Char
  fraction : List Char
  exponent : Int

def isDigit (c : Char) : Bool := '0' ≤ c && c ≤ '9'

/-- The value of decimal digits. -/
def digitsValue (digits : List Char) : Nat :=
  digits.foldl (fun n c => n * 10 + (c.toNat - '0'.toNat)) 0

/-- The value of a text of digits only, at least one. -/
def natural? (s : List Char) : Option Nat :=
  if s.isEmpty || !s.all isDigit then none else some (digitsValue s)

/-- The exponent that ends a numeral; zero when there is none. -/
def exponent? : List Char → Option Int
  | [] => some 0
  | e :: rest =>
    if e = 'e' ∨ e = 'E' then
      match rest with
      | '-' :: digits => (natural? digits).map fun n => -(n : Int)
      | '+' :: digits => (natural? digits).map Int.ofNat
      | digits => (natural? digits).map Int.ofNat
    else none

/-- A numeral without its sign: some digit stands before or after the point. -/
def numeral? (s : List Char) : Option Numeral :=
  let whole := s.takeWhile isDigit
  let rest := s.dropWhile isDigit
  let (fraction, rest) := match rest with
    | '.' :: r => (r.takeWhile isDigit, r.dropWhile isDigit)
    | r => ([], r)
  if whole.isEmpty && fraction.isEmpty then none
  else (exponent? rest).map fun e => ⟨whole, fraction, e⟩

/-- What a numeral without its sign means. -/
def readUnsigned? (negative : Bool) (s : List Char) : Option Reading :=
  let word := String.ofList (s.map Text.lowerAscii)
  if word = "nan" then some .nan
  else if word = "inf" ∨ word = "infinity" then some (.infinite negative)
  else (numeral? s).map fun n =>
    match ofDecimal? negative (digitsValue (n.whole ++ n.fraction))
        (n.exponent - n.fraction.length) with
    | some x => .finite x
    | none => .infinite negative

/-- What a text means as a number, if it is one. -/
def read? (s : String) : Option Reading :=
  match s.toList with
  | '-' :: rest => readUnsigned? true rest
  | '+' :: rest => readUnsigned? false rest
  | rest => readUnsigned? false rest

/-- The double that a text, blank ends aside, means. -/
def ofText? (s : String) : Option Double :=
  match read? (Text.trim s) with
  | some (.finite x) => some x
  | _ => none

end Signoff.Double
