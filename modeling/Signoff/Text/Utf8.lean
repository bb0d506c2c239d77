/-!
Characters out of bytes. Every character is one to four bytes; what is none is read either not at
all, or as the replacement character in place of the longest run of bytes that began like one.
-/

namespace Signoff.Utf8

/-- The first byte of a character: its part of the code, and the ranges of the bytes that follow. -/
structure Lead where
  bits : Nat
  ranges : List (Nat × Nat)

/-- Any byte that continues a character. -/
def tail : Nat × Nat := (0x80, 0xBF)

/-- What a byte begins, if anything. -/
def lead? (b : Nat) : Option Lead :=
  if b < 0x80 then some ⟨b, []⟩
  else if b < 0xC2 then none
  else if b < 0xE0 then some ⟨b % 0x20, [tail]⟩
  else if b < 0xF0 then
    let first := if b = 0xE0 then (0xA0, 0xBF) else if b = 0xED then (0x80, 0x9F) else tail
    some ⟨b % 0x10, [first, tail]⟩
  else if b < 0xF5 then
    let first := if b = 0xF0 then (0x90, 0xBF) else if b = 0xF4 then (0x80, 0x8F) else tail
    some ⟨b % 0x08, [first, tail, tail]⟩
  else none

/-- Reads the bytes that follow: the code if all are there, and how many were read. -/
def follow (bits read : Nat) : List (Nat × Nat) → List Nat → Option Nat × Nat
  | [], _ => (some bits, read)
  | _ :: _, [] => (none, read)
  | (low, high) :: ranges, b :: rest =>
    if low ≤ b ∧ b ≤ high then follow (bits * 0x40 + b % 0x40) (read + 1) ranges rest
    else (none, read)

/-- The character that bytes begin with, if it is one, and how many bytes come after its first. -/
def first (b : Nat) (rest : List Nat) : Option Char × Nat :=
  match lead? b with
  | none => (none, 0)
  | some l =>
    let (code, read) := follow l.bits 0 l.ranges rest
    (code.map Char.ofNat, read)

/-- What stands for bytes that are no character. -/
def replacement : Char := '\uFFFD'

/-- The characters of bytes; what is none is replaced. -/
def lossy : List Nat → List Char
  | [] => []
  | b :: rest =>
    let (c, read) := first b rest
    c.getD replacement :: lossy (rest.drop read)
termination_by bytes => bytes.length
decreasing_by simp only [List.length_drop, List.length_cons]; omega

/-- The characters of bytes, if all are. -/
def strict? : List Nat → Option (List Char)
  | [] => some []
  | b :: rest =>
    match first b rest with
    | (some c, read) => (strict? (rest.drop read)).map (c :: ·)
    | (none, _) => none
termination_by bytes => bytes.length
decreasing_by simp only [List.length_drop, List.length_cons]; omega

/-- The bytes of a text. -/
def bytes (text : String) : List Nat := text.toUTF8.toList.map (·.toNat)

end Signoff.Utf8
