import Signoff.Double.Reading
import Signoff.Instant.Reader
import Signoff.Json.Basic
import Signoff.Text.Split

/-!
How the values of fields compare. Text that means an instant or a number counts as one, so that
records of different origin meet the same conditions.
-/

namespace Signoff.Condition

/-- The truth value that a text means, in any case. -/
def boolOfText? (s : String) : Option Bool :=
  if Text.sameButCase s "true" then some true
  else if Text.sameButCase s "false" then some false
  else none

/-- The instant that a value means. -/
def instant? : Json → Option Instant
  | .str s => Instant.ofText? s
  | _ => none

/-- The number that a value means. -/
def number? : Json → Option Double
  | .num n => some n.toDouble
  | .str s => Double.ofText? s
  | _ => none

/-- The order of two values: as instants when both mean one, else as numbers. -/
def compare? (a b : Json) : Option Ordering :=
  match instant? a, instant? b with
  | some s, some t => some (s.compare t)
  | _, _ =>
    match number? a, number? b with
    | some x, some y => some (x.compare y)
    | _, _ => none

/-- Whether a text means a number of this value. -/
def textIsNumber (s : String) (n : Json.Number) : Bool :=
  match Double.ofText? s with
  | some x => x.same n.toDouble
  | none => false

/-- Equality of texts, or of the instants that both mean. -/
def sameText (s t : String) : Bool :=
  s == t ||
    match Instant.ofText? s, Instant.ofText? t with
    | some a, some b => a == b
    | _, _ => false

mutual

/-- Equality that looks through the kind of scalars; values of other kinds differ. -/
def looseEq : Json → Json → Bool
  | .null, .null => true
  | .bool a, .bool b => a == b
  | .num m, .num n => m.toDouble.same n.toDouble
  | .num n, .str s => textIsNumber s n
  | .str s, .num n => textIsNumber s n
  | .bool b, .str s => boolOfText? s == some b
  | .str s, .bool b => boolOfText? s == some b
  | .str s, .str t => sameText s t
  | .arr as, .arr bs => as.length == bs.length && looseEqItems as bs
  | .obj as, .obj bs => as.length == bs.length && looseEqMembers as bs
  | _, _ => false

def looseEqItems : List Json → List Json → Bool
  | a :: as, b :: bs => looseEq a b && looseEqItems as bs
  | _, _ => true

/-- Whether every member has an equal one of the same name. -/
def looseEqMembers : List (String × Json) → List (String × Json) → Bool
  | [], _ => true
  | (k, a) :: as, bs =>
    (match Json.Object.get? bs k with
      | some b => looseEq a b
      | none => false) && looseEqMembers as bs

end

/-- Whether a value contains another: text in text, an item in a list, a name in an object; none
when the kinds do not fit. -/
def contains? (haystack needle : Json) : Option Bool :=
  match haystack, needle with
  | .str s, .str n => some (Text.hasPart n.toList s.toList)
  | .arr items, needle => some (items.any (looseEq · needle))
  | .obj members, .str name => some (Json.Object.contains members name)
  | _, _ => none

end Signoff.Condition
