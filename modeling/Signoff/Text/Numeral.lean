/-!
Whole numbers in text: decimal digits, with a sign or without, up to a limit.
-/

namespace Signoff.Numeral

/-- Why a text is no whole number. -/
inductive Fault where
  | empty
  | digit
  | tooLarge
  deriving DecidableEq, Repr

def Fault.text : Fault → String
  | .empty => "cannot parse integer from empty string"
  | .digit => "invalid digit found in string"
  | .tooLarge => "number too large to fit in target type"

/-- Reads digits on from a number; what goes wrong first is reported. -/
def digits (limit : Nat) : Nat → List Char → Except Fault Nat
  | n, [] => .ok n
  | n, c :: rest =>
    if !c.isDigit then .error .digit
    else
      let n := n * 10 + (c.toNat - '0'.toNat)
      if limit < n then .error .tooLarge else digits limit n rest

/-- Reads the digits behind a sign; there has to be one. -/
def signed (limit : Nat) : List Char → Except Fault Nat
  | [] => .error .digit
  | cs => digits limit 0 cs

/-- Reads a number that is not negative. -/
def natural (limit : Nat) (text : String) : Except Fault Nat :=
  match text.toList with
  | [] => .error .empty
  | '+' :: rest => signed limit rest
  | cs => digits limit 0 cs

/-- Reads a number of 64 bits, negative ones too. -/
def integer (text : String) : Except Fault Int :=
  match text.toList with
  | '-' :: rest => (signed 0x8000000000000000 rest).map fun n => -(n : Int)
  | _ => (natural 0x7fffffffffffffff text).map fun n => (n : Int)

theorem digits_le {limit n m : Nat} {cs : List Char} (h : digits limit n cs = .ok m) :
    n ≤ limit → m ≤ limit := by
  induction cs generalizing n with
  | nil => cases h; exact id
  | cons c rest ih =>
    rw [digits] at h
    split at h
    · cases h
    · dsimp only at h
      split at h
      · cases h
      · next hle => exact fun _ => ih h (Nat.le_of_not_lt hle)

end Signoff.Numeral
