/-!
Cutting text at separators.
-/

namespace Signoff.Text

/-- The parts of a text between the separators; without one the text is the only part. -/
def splitOn (separator : Char) : List Char → List (List Char)
  | [] => [[]]
  | c :: rest =>
    if c = separator then [] :: splitOn separator rest
    else
      match splitOn separator rest with
      | [] => [[c]]
      | part :: parts => (c :: part) :: parts

/-- The parts of a text, as texts. -/
def split (separator : Char) (s : String) : List String :=
  (splitOn separator s.toList).map String.ofList

/-- The place of the last occurrence of a character. -/
def lastIndexOf? (mark : Char) : List Char → Option Nat
  | [] => none
  | c :: rest =>
    match lastIndexOf? mark rest with
    | some i => some (i + 1)
    | none => if c = mark then some 0 else none

/-- What stands after the last occurrence of a character. -/
def afterLast? (mark : Char) : List Char → Option (List Char)
  | [] => none
  | c :: rest =>
    match afterLast? mark rest with
    | some after => some after
    | none => if c = mark then some rest else none

/-- Whether some part of a text is another text. -/
def hasPart (part : List Char) : List Char → Bool
  | [] => part.isEmpty
  | c :: rest => part.isPrefixOf (c :: rest) || hasPart part rest

theorem splitOn_ne_nil (separator : Char) (s : List Char) : splitOn separator s ≠ [] := by
  cases s with
  | nil => simp [splitOn]
  | cons c rest =>
    rw [splitOn]
    split
    · simp
    · split <;> simp

end Signoff.Text
