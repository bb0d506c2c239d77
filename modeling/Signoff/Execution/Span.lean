/-!
Spans of time and their text: a number of seconds, or of the largest unit that is not more, with as
many decimals as it takes.
-/

namespace Signoff

/-- A span of time. -/
structure Span where
  nanos : Nat
  deriving DecidableEq, Repr

namespace Span

def ofSeconds (n : Nat) : Span := ⟨n * 1000000000⟩

def ofMillis (n : Nat) : Span := ⟨n * 1000000⟩

/-- The decimals of a part of a unit that has `10^width` parts, zeros at the end left out. -/
def decimals : Nat → Nat → List Char
  | 0, _ => []
  | width + 1, part =>
    if part = 0 then []
    else Nat.digitChar (part / Nat.pow 10 width) :: decimals width (part % Nat.pow 10 width)

/-- A number of units of `10^width` parts each. -/
def inUnits (nanos width : Nat) (unit : String) : String :=
  let whole := toString (nanos / Nat.pow 10 width)
  match decimals width (nanos % Nat.pow 10 width) with
  | [] => whole ++ unit
  | digits => whole ++ "." ++ String.ofList digits ++ unit

def text (s : Span) : String :=
  if 1000000000 ≤ s.nanos then inUnits s.nanos 9 "s"
  else if 1000000 ≤ s.nanos then inUnits s.nanos 6 "ms"
  else if 1000 ≤ s.nanos then inUnits s.nanos 3 "µs"
  else inUnits s.nanos 0 "ns"

end Span
end Signoff
