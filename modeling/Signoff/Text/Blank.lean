/-!
Blank characters, those with the Unicode property White_Space, and text with its blank ends cut off.
-/

namespace Signoff.Text

/-- The blank characters beyond ASCII. -/
def wideBlanks : List Nat :=
  [0x85, 0xA0, 0x1680, 0x2000, 0x2001, 0x2002, 0x2003, 0x2004, 0x2005, 0x2006, 0x2007, 0x2008,
    0x2009, 0x200A, 0x2028, 0x2029, 0x202F, 0x205F, 0x3000]

def isBlank (c : Char) : Bool :=
  c == ' ' || (9 ≤ c.toNat && c.toNat ≤ 13) || (128 ≤ c.toNat && wideBlanks.contains c.toNat)

/-- Drops blanks in front. -/
def skipBlank (s : List Char) : List Char := s.dropWhile isBlank

/-- Drops blanks at both ends. -/
def trimChars (s : List Char) : List Char := (skipBlank (skipBlank s).reverse).reverse

/-- The text without the blanks at its ends. -/
def trim (s : String) : String := String.ofList (trimChars s.toList)

/-- Whether a text says nothing. -/
def isBlankText (s : String) : Bool := s.toList.all isBlank

/-- An ASCII capital as a small letter, any other character as it is. -/
def lowerAscii (c : Char) : Char := if 'A' ≤ c ∧ c ≤ 'Z' then Char.ofNat (c.toNat + 32) else c

/-- Equality but for the case of ASCII letters. -/
def sameButCase (s t : String) : Bool := s.toList.map lowerAscii == t.toList.map lowerAscii

theorem isBlank_of_isWhitespace {c : Char} (h : c.isWhitespace = true) : isBlank c = true := by
  simp only [Char.isWhitespace, Bool.or_eq_true, decide_eq_true_eq] at h
  rcases h with ((h | h) | h) | h <;> subst h <;> decide

end Signoff.Text
