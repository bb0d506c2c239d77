import Signoff.Json.Basic
import Signoff.Double.Text

/-!
JSON text as it stands: a `Document` keeps members in the order of the text, repeated names
included, and marks the spot where the text stops being JSON. What a document means is for its
readers to say; `Document.toJson` reads it as a value.
-/

namespace Signoff.Json

/-- What a JSON text says, in its order. A list or object that is not closed broke off there. -/
inductive Document where
  | null
  | bool (b : Bool)
  | num (n : Number)
  | str (s : String)
  | arr (items : List Document) (closed : Bool)
  | obj (members : List (String × Document)) (closed : Bool)
  /-- A scalar of the right shape without a value: half a surrogate pair, or a number too large. -/
  | unreadable
  /-- No JSON stands here. -/
  | broken
  deriving Inhabited, Repr

namespace Document

def isBlank (c : Char) : Bool := c == ' ' || c == '\n' || c == '\t' || c == '\r'

def skipBlank (s : List Char) : List Char := s.dropWhile isBlank

/-- The value of a hexadecimal digit. -/
def hexValue? (c : Char) : Option Nat :=
  if '0' ≤ c ∧ c ≤ '9' then some (c.toNat - '0'.toNat)
  else if 'a' ≤ c ∧ c ≤ 'f' then some (c.toNat - 'a'.toNat + 10)
  else if 'A' ≤ c ∧ c ≤ 'F' then some (c.toNat - 'A'.toNat + 10)
  else none

/-- The value of four hexadecimal digits. -/
def hexValues? (a b c d : Char) : Option Nat := do
  let a ← hexValue? a
  let b ← hexValue? b
  let c ← hexValue? c
  let d ← hexValue? d
  return ((a * 16 + b) * 16 + c) * 16 + d

/-- The character that a letter after a backslash stands for. -/
def escaped? : Char → Option Char
  | '"' => some '"'
  | '\\' => some '\\'
  | '/' => some '/'
  | 'b' => some '\x08'
  | 'f' => some '\x0c'
  | 'n' => some '\n'
  | 'r' => some '\r'
  | 't' => some '\t'
  | _ => none

/-- What stands between the quotes so far, latest character first, and the first half of a
surrogate pair that waits for its second; no characters when a half stood alone. -/
structure Quoted where
  characters : Option (List Char)
  half : Option Nat

def Quoted.lost : Quoted := ⟨none, none⟩

def Quoted.push (q : Quoted) (c : Char) : Quoted :=
  match q.half with
  | some _ => .lost
  | none => ⟨q.characters.map (c :: ·), none⟩

/-- Adds a UTF-16 unit. -/
def Quoted.pushUnit (q : Quoted) (u : Nat) : Quoted :=
  match q.half with
  | some high =>
    if 0xDC00 ≤ u ∧ u ≤ 0xDFFF then
      let c := Char.ofNat (0x10000 + (high - 0xD800) * 0x400 + (u - 0xDC00))
      ⟨q.characters.map (c :: ·), none⟩
    else .lost
  | none =>
    if 0xD800 ≤ u ∧ u ≤ 0xDBFF then ⟨q.characters, some u⟩
    else if 0xDC00 ≤ u ∧ u ≤ 0xDFFF then .lost
    else ⟨q.characters.map (Char.ofNat u :: ·), none⟩

/-- The text that was quoted; none when half a pair was left over. -/
def Quoted.text? (q : Quoted) : Option String :=
  match q.half with
  | some _ => none
  | none => q.characters.map fun cs => String.ofList cs.reverse

/-- Reads up to the closing quote. -/
def readQuoted (q : Quoted) : List Char → Option (Quoted × List Char)
  | [] => none
  | '"' :: rest => some (q, rest)
  | '\\' :: 'u' :: a :: b :: c :: d :: rest =>
    match hexValues? a b c d with
    | some u => readQuoted (q.pushUnit u) rest
    | none => none
  | '\\' :: e :: rest =>
    match escaped? e with
    | some c => readQuoted (q.push c) rest
    | none => none
  | c :: rest => if c.toNat < 32 then none else readQuoted (q.push c) rest

/-- Reads the rest of a string whose opening quote is gone. -/
def readString (s : List Char) : Option (Option String × List Char) :=
  (readQuoted ⟨some [], none⟩ s).map fun (q, rest) => (q.text?, rest)

def isDigit (c : Char) : Bool := '0' ≤ c && c ≤ '9'

/-- The value of decimal digits. -/
def digitsValue (digits : List Char) : Nat :=
  digits.foldl (fun n c => n * 10 + (c.toNat - '0'.toNat)) 0

/-- Digits of a fraction after a point, if one stands here. -/
def readFraction : List Char → Option (List Char × List Char)
  | '.' :: s =>
    match s.takeWhile isDigit with
    | [] => none
    | digits => some (digits, s.dropWhile isDigit)
  | s => some ([], s)

/-- The exponent, if one stands here. -/
def readExponent (s : List Char) : Option (Option Int × List Char) :=
  let signed (negative : Bool) (s : List Char) : Option (Option Int × List Char) :=
    match s.takeWhile isDigit with
    | [] => none
    | digits =>
      let n : Int := digitsValue digits
      some (some (if negative then -n else n), s.dropWhile isDigit)
  match s with
  | e :: rest =>
    if e = 'e' ∨ e = 'E' then
      match rest with
      | '+' :: r => signed false r
      | '-' :: r => signed true r
      | r => signed false r
    else some (none, s)
  | [] => some (none, [])

/-- Whole numbers of 64 bits, signed or not, keep their kind; others are doubles. -/
def minInt : Int := -0x8000000000000000

def maxInt : Int := 0xffffffffffffffff

/-- The number that a literal means: whole without a point and an exponent, if it fits. -/
def numberOf (negative : Bool) (whole fraction : List Char) (exponent : Option Int) : Document :=
  let n : Int := digitsValue whole
  let n := if negative then -n else n
  let real : Document :=
    match Double.ofDecimal? negative (digitsValue (whole ++ fraction))
        (exponent.getD 0 - fraction.length) with
    | some x => .num (.real x)
    | none => .unreadable
  if fraction.isEmpty && exponent.isNone then
    if negative && n == 0 then .num (.real ⟨true, 0⟩)
    else if minInt ≤ n ∧ n ≤ maxInt then .num (.int n)
    else real
  else real

/-- Reads a number whose sign is gone. -/
def readNumber (negative : Bool) (s : List Char) : Option (Document × List Char) := do
  let whole := s.takeWhile isDigit
  if whole.isEmpty then none
  else if whole.length > 1 && whole.head? == some '0' then none
  else
    let (fraction, s) ← readFraction (s.dropWhile isDigit)
    let (exponent, s) ← readExponent s
    return (numberOf negative whole fraction exponent, s)

/-- The rest after a fixed word. -/
def afterWord? : List Char → List Char → Option (List Char)
  | [], s => some s
  | c :: cs, d :: s => if c = d then afterWord? cs s else none
  | _ :: _, [] => none

/-- A scalar and the rest, or the end of what can be read. -/
def scalar (r : Option (Document × List Char)) : Document × Option (List Char) :=
  match r with
  | some (d, rest) => (d, some rest)
  | none => (.broken, none)

/-- Reads a scalar value. -/
def readScalar : List Char → Option (Document × List Char)
  | '"' :: s =>
    (readString s).map fun (text, rest) =>
      (match text with | some t => .str t | none => .unreadable, rest)
  | '-' :: s => readNumber true s
  | 'n' :: s => (afterWord? "ull".toList s).map fun r => (.null, r)
  | 't' :: s => (afterWord? "rue".toList s).map fun r => (.bool true, r)
  | 'f' :: s => (afterWord? "alse".toList s).map fun r => (.bool false, r)
  | s => readNumber false s

mutual

/-- Reads one value; no rest when the text broke off. Each level and each item takes one step. -/
def readValue : Nat → List Char → Document × Option (List Char)
  | 0, _ => (.broken, none)
  | steps + 1, s =>
    match skipBlank s with
    | '[' :: r =>
      match skipBlank r with
      | ']' :: r => (.arr [] true, some r)
      | r =>
        let (items, rest) := readItems steps r
        (.arr items rest.isSome, rest)
    | '\x7b' :: r =>
      match skipBlank r with
      | '\x7d' :: r => (.obj [] true, some r)
      | r =>
        let (members, rest) := readMembers steps r
        (.obj members rest.isSome, rest)
    | r => scalar (readScalar r)

/-- Reads the items of a list up to its closing bracket. -/
def readItems : Nat → List Char → List Document × Option (List Char)
  | 0, _ => ([], none)
  | steps + 1, s =>
    let (item, rest) := readValue steps s
    match rest.map skipBlank with
    | some (',' :: r) =>
      let (items, rest) := readItems steps r
      (item :: items, rest)
    | some (']' :: r) => ([item], some r)
    | _ => ([item], none)

/-- Reads the members of an object up to its closing brace. -/
def readMembers : Nat → List Char → List (String × Document) × Option (List Char)
  | 0, _ => ([], none)
  | steps + 1, s =>
    match skipBlank s with
    | '"' :: r =>
      match readString r with
      | some (some name, r) =>
        match skipBlank r with
        | ':' :: r =>
          let (value, rest) := readValue steps r
          match rest.map skipBlank with
          | some (',' :: r) =>
            let (members, rest) := readMembers steps r
            ((name, value) :: members, rest)
          | some ('\x7d' :: r) => ([(name, value)], some r)
          | _ => ([(name, value)], none)
        | _ => ([(name, .broken)], none)
      | _ => ([], none)
    | _ => ([], none)

end

/-- The document of a text, and whether nothing but blanks stands after it. -/
def ofText (text : String) : Document × Bool :=
  let s := text.toList
  let (d, rest) := readValue (2 * s.length + 4) s
  (d, rest.all fun r => (skipBlank r).isEmpty)

mutual

/-- The document that writes out a value. -/
def ofJson : Json → Document
  | .null => .null
  | .bool b => .bool b
  | .num n => .num n
  | .str s => .str s
  | .arr items => .arr (ofItems items) true
  | .obj members => .obj (ofMembers members) true

def ofItems : List Json → List Document
  | [] => []
  | a :: rest => ofJson a :: ofItems rest

def ofMembers : List (String × Json) → List (String × Document)
  | [] => []
  | (k, a) :: rest => (k, ofJson a) :: ofMembers rest

end

end Document
end Signoff.Json
