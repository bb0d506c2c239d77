import Signoff.Text.Utf8

/-!
Percent signs in web addresses: one that is followed by two hexadecimal digits stands for a byte.
-/

namespace Signoff.Web.Percent

/-- The value of a hexadecimal digit. -/
def digit? (b : Nat) : Option Nat :=
  if 48 ≤ b ∧ b ≤ 57 then some (b - 48)
  else if 65 ≤ b ∧ b ≤ 70 then some (b - 55)
  else if 97 ≤ b ∧ b ≤ 102 then some (b - 87)
  else none

/-- The byte of a percent sign. -/
def sign : Nat := 37

/-- Puts bytes in place of what stands for them. -/
def decode : List Nat → List Nat
  | [] => []
  | [b] => [b]
  | [b, c] => [b, c]
  | b :: c :: d :: rest =>
    if b = sign then
      match digit? c, digit? d with
      | some high, some low => (high * 16 + low) :: decode rest
      | _, _ => b :: decode (c :: d :: rest)
    else b :: decode (c :: d :: rest)

/-- The text that a part of a path stands for; none when its bytes are no text. -/
def text? (s : String) : Option String := (Utf8.strict? (decode (Utf8.bytes s))).map String.ofList

theorem decode_of_not_mem {bytes : List Nat} (h : sign ∉ bytes) : decode bytes = bytes := by
  fun_induction decode bytes with
  | case1 => rfl
  | case2 => rfl
  | case3 => rfl
  | case4 => simp at h
  | case5 => simp at h
  | case6 b c d rest _ ih => rw [ih (fun hm => h (List.mem_cons_of_mem _ hm))]

end Signoff.Web.Percent
