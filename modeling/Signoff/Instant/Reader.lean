import Signoff.Instant.Basic
import Signoff.Text.Blank

/-!
Reading instants. `strict?` takes RFC 3339, `relaxed?` the same with blanks, missing zeros and signed
years, and `ofText?` also dates and times without an offset, as universal time.
-/

namespace Signoff.Instant

open Text (skipBlank)

def isDigit (c : Char) : Bool := '0' ≤ c && c ≤ '9'

def digitsValue (digits : List Char) : Nat :=
  digits.foldl (fun n c => n * 10 + (c.toNat - '0'.toNat)) 0

/-- Reads at least one digit and at most `most`. -/
def number? (most : Nat) (s : List Char) : Option (Nat × List Char) :=
  match (s.take most).takeWhile isDigit with
  | [] => none
  | digits => some (digitsValue digits, s.drop digits.length)

/-- Reads exactly this many digits. -/
def digits? (count : Nat) (s : List Char) : Option (Nat × List Char) :=
  let digits := (s.take count).takeWhile isDigit
  if digits.length = count then some (digitsValue digits, s.drop count) else none

/-- Reads one given character. -/
def char? (c : Char) : List Char → Option (List Char)
  | d :: rest => if c = d then some rest else none
  | [] => none

/-- The nanoseconds that digits after a point mean; digits past the ninth do not count. -/
def nanosOf (digits : List Char) : Nat :=
  digitsValue (digits.take 9) * Nat.pow 10 (9 - (digits.take 9).length)

/-- Reads a fraction of a second, if a point stands here. -/
def fraction? : List Char → Option (Nat × List Char)
  | '.' :: s =>
    match s.takeWhile isDigit with
    | [] => none
    | digits => some (nanosOf digits, s.dropWhile isDigit)
  | s => some (0, s)

/-- Reads hours and minutes after the sign of an offset; the separator has to be as told. -/
def offsetDigits? (separator : List Char → Option (List Char)) (s : List Char) :
    Option (Nat × List Char) := do
  let (hours, s) ← digits? 2 s
  let s ← separator s
  let (minutes, s) ← digits? 2 s
  if minutes ≤ 59 then return (hours * 3600 + minutes * 60, s) else none

/-- Reads an offset in seconds: Z, or a sign, hours and minutes. The sign may be a true minus. -/
def offset? (separator : List Char → Option (List Char)) : List Char → Option (Int × List Char)
  | c :: s =>
    if c = 'Z' ∨ c = 'z' then some (0, s)
    else if c = '+' then (offsetDigits? separator s).map fun (n, s) => ((n : Int), s)
    else if c = '-' ∨ c = '−' then (offsetDigits? separator s).map fun (n, s) => (-(n : Int), s)
    else none
  | [] => none

/-- Between a date and a time. -/
def dateEnd? : List Char → Option (List Char)
  | c :: s => if c = 'T' ∨ c = 't' ∨ c = ' ' then some s else none
  | [] => none

/-- The universal time of a local time; none when the offset is a day or more. -/
def universal? (t : Option Instant) (offset : Int) : Option Instant :=
  if offset.natAbs < secondsOfDay then t.bind (·.shiftBack? offset) else none

/-- Reads RFC 3339: every field with all its digits. -/
def strict? (s : List Char) : Option Instant := do
  let (year, s) ← digits? 4 s
  let s ← char? '-' s
  let (month, s) ← digits? 2 s
  let s ← char? '-' s
  let (day, s) ← digits? 2 s
  let s ← dateEnd? s
  let (hour, s) ← digits? 2 s
  let s ← char? ':' s
  let (minute, s) ← digits? 2 s
  let s ← char? ':' s
  let (second, s) ← digits? 2 s
  let (nanos, s) ← fraction? s
  let (offset, s) ← offset? (char? ':') s
  if s.isEmpty then universal? (ofFields? year month day hour minute second nanos) offset else none

/-- Reads a year: four digits at most, or a sign and any number of digits. -/
def year? (s : List Char) : Option (Int × List Char) :=
  match skipBlank s with
  | '-' :: r => (number? r.length r).map fun (n, r) => (-(n : Int), r)
  | '+' :: r => (number? r.length r).map fun (n, r) => ((n : Int), r)
  | r => (number? 4 r).map fun (n, r) => ((n : Int), r)

/-- Reads a field of at most two digits, after blanks. -/
def twoDigits? (s : List Char) : Option (Nat × List Char) := number? 2 (skipBlank s)

/-- Reads a date; `before` stands in front of each separator. -/
def date? (before : List Char → List Char) (s : List Char) :
    Option ((Int × Nat × Nat) × List Char) := do
  let (year, s) ← year? s
  let s ← char? '-' (before s)
  let (month, s) ← twoDigits? s
  let s ← char? '-' (before s)
  let (day, s) ← twoDigits? s
  return ((year, month, day), s)

/-- Reads a time with an optional fraction; `before` stands in front of each separator. -/
def time? (before : List Char → List Char) (s : List Char) :
    Option ((Nat × Nat × Nat × Nat) × List Char) := do
  let (hour, s) ← twoDigits? s
  let s ← char? ':' (before s)
  let (minute, s) ← twoDigits? s
  let s ← char? ':' (before s)
  let (second, s) ← twoDigits? s
  let (nanos, s) ← fraction? s
  return ((hour, minute, second, nanos), s)

/-- The word UTC in any case, or an offset with any separator. -/
def looseOffset? : List Char → Option (Int × List Char)
  | a :: b :: c :: s =>
    if [a, b, c].map Text.lowerAscii = ['u', 't', 'c'] then some (0, s)
    else offset? (fun s => some (s.dropWhile fun c => c = ':' || Text.isBlank c)) (a :: b :: c :: s)
  | s => offset? (fun s => some (s.dropWhile fun c => c = ':' || Text.isBlank c)) s

/-- Reads an instant with an offset, leniently. -/
def relaxed? (s : List Char) : Option Instant := do
  let ((year, month, day), s) ← date? skipBlank s
  let s ← dateEnd? s
  let ((hour, minute, second, nanos), s) ← time? skipBlank s
  let (offset, s) ← looseOffset? (skipBlank s)
  if (skipBlank s).isEmpty then
    universal? (ofFields? year month day hour minute second nanos) offset
  else none

/-- Reads a date and a time without an offset, with `between` between them. -/
def local? (between : List Char → Option (List Char)) (s : List Char) : Option Instant := do
  let ((year, month, day), s) ← date? id s
  let s ← between s
  let ((hour, minute, second, nanos), s) ← time? id s
  if s.isEmpty then ofFields? year month day hour minute second nanos else none

/-- Reads a date alone, as its midnight. -/
def midnight? (s : List Char) : Option Instant := do
  let ((year, month, day), s) ← date? id s
  if s.isEmpty then ofFields? year month day 0 0 0 0 else none

/-- The instant that a text means, blank ends aside; without an offset it is universal time. -/
def ofText? (s : String) : Option Instant :=
  let s := Text.trimChars s.toList
  strict? s <|> local? (char? 'T') s <|> local? (fun s => some (skipBlank s)) s <|> midnight? s

/-- Reads an instant out of JSON. -/
def ofJsonText? (s : String) : Option Instant := relaxed? s.toList

/-- Reads RFC 3339 text. -/
def ofRfc3339? (s : String) : Option Instant := strict? s.toList

end Signoff.Instant
