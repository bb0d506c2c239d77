import Signoff.Pattern.Reader
import Signoff.Pattern.Program

/-!
Patterns: regular expressions that were read and turned into a machine. A pattern is known by its
text, which is the only thing that two patterns are compared by.
-/

namespace Signoff

namespace Pattern

/-- The machine of a regular expression, if it is one and not too large. -/
def compile? (text : String) : Option Program :=
  match Reader.read? text with
  | some tree => if tree.weight ≤ Tree.maxWeight then some (.ofTree tree) else none
  | none => none

end Pattern

/-- A regular expression with its machine. -/
structure Pattern where
  text : String
  program : Pattern.Program
  compiled : Pattern.compile? text = some program

namespace Pattern

/-- The pattern of a text, if it is a regular expression. -/
def ofText? (text : String) : Option Pattern :=
  match h : compile? text with
  | some program => some ⟨text, program, h⟩
  | none => none

/-- Whether some part of a text matches. -/
def matchesIn (p : Pattern) (text : String) : Bool := p.program.matchesIn text

theorem ext_text {p q : Pattern} (h : p.text = q.text) : p = q := by
  obtain ⟨t, a, ha⟩ := p
  obtain ⟨u, b, hb⟩ := q
  cases h
  have hab : some a = some b := ha.symm.trans hb
  cases hab
  rfl

theorem ofText?_text (p : Pattern) : ofText? p.text = some p := by
  unfold ofText?
  split
  · next program h => exact congrArg some (ext_text rfl)
  · next h => rw [p.compiled] at h; cases h

theorem text_of_ofText? {text : String} {p : Pattern} (h : ofText? text = some p) :
    p.text = text := by
  unfold ofText? at h
  split at h
  · cases h; rfl
  · cases h

instance : DecidableEq Pattern := fun p q =>
  if h : p.text = q.text then .isTrue (ext_text h) else .isFalse fun e => h (e ▸ rfl)

end Pattern
end Signoff
