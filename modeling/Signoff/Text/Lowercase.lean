import Signoff.Text.Casing
import Signoff.Text.Property

/-!
Text in small letters. Two capitals are special: the dotted I becomes two characters, and a sigma
at the end of a word has a form of its own.
-/

namespace Signoff.Text

/-- Whether, case-ignorable characters aside, a letter with a case comes next. -/
def casedNext (s : List Char) : Bool :=
  match s.dropWhile isCaseIgnorable with
  | c :: _ => isCased c
  | [] => false

/-- The small letters of a text, given the characters before it, last one first. -/
def lowerChars (before : List Char) : List Char → List Char
  | [] => []
  | c :: rest =>
    let small :=
      if c = 'Σ' then if casedNext before && !casedNext rest then ['ς'] else ['σ']
      else if c = 'İ' then ['i', '\u0307']
      else [Casing.lower c]
    small ++ lowerChars (c :: before) rest

/-- The text in small letters. -/
def lowercase (s : String) : String := String.ofList (lowerChars [] s.toList)

end Signoff.Text
