/-!
Sets of characters as sorted ranges of code points.
-/

namespace Signoff.Text

/-- Ranges of code points, first to last, in order and apart from each other. -/
structure Ranges where
  pairs : Array (Nat × Nat)
  deriving Inhabited

namespace Ranges

def empty : Ranges := ⟨#[]⟩

/-- The value of a hexadecimal digit in capitals. -/
def hexDigit (c : Char) : Nat :=
  if 'A' ≤ c then c.toNat - 'A'.toNat + 10 else c.toNat - '0'.toNat

/-- The state of reading a list of ranges: ranges so far, and the two ends of the one at hand. -/
structure Scan where
  pairs : Array (Nat × Nat)
  first : Option Nat
  last : Option Nat

def Scan.close (s : Scan) : Scan :=
  match s.first, s.last with
  | some a, some b => ⟨s.pairs.push (a, b), none, none⟩
  | none, some b => ⟨s.pairs.push (b, b), none, none⟩
  | _, none => ⟨s.pairs, none, none⟩

def Scan.step (s : Scan) (c : Char) : Scan :=
  if c = ' ' then s.close
  else if c = '-' then ⟨s.pairs, s.last, none⟩
  else ⟨s.pairs, s.first, some (s.last.getD 0 * 16 + hexDigit c)⟩

/-- The ranges of lines such as `41-5A 61-7A 5F`. -/
def ofLines (lines : List String) : Ranges :=
  ⟨(lines.foldl (fun s (line : String) => (line.toList.foldl Scan.step s).close) ⟨#[], none, none⟩).pairs⟩

/-- Looks between two places for the range that holds a code point. -/
def searchFrom (pairs : Array (Nat × Nat)) (code low high : Nat) : Bool :=
  if _ : low < high then
    let middle := (low + high) / 2
    match pairs[middle]? with
    | none => false
    | some (first, last) =>
      if code < first then searchFrom pairs code low middle
      else if last < code then searchFrom pairs code (middle + 1) high
      else true
  else false
termination_by high - low

/-- Whether a character is in one of the ranges. -/
def contains (r : Ranges) (c : Char) : Bool := searchFrom r.pairs c.toNat 0 r.pairs.size

end Ranges
end Signoff.Text
