import Signoff.Text.Split

/-!
Dotted paths to the fields of a record.
-/

namespace Signoff

/-- The names that a dotted path goes through. -/
def FieldPath.segmentsOf (text : String) : List String := Text.split '.' text

/-- Whether a text is a path: names without a dot in them, none of them empty. -/
def FieldPath.isPath (text : String) : Bool := (segmentsOf text).all (!·.isEmpty)

/-- A dotted path, such as `sender.name`. -/
structure FieldPath where
  text : String
  valid : FieldPath.isPath text = true
  deriving DecidableEq

namespace FieldPath

def ofText? (text : String) : Option FieldPath :=
  if h : isPath text = true then some ⟨text, h⟩ else none

/-- The names that the path goes through, at least one. -/
def segments (p : FieldPath) : List String := segmentsOf p.text

theorem segments_ne_nil (p : FieldPath) : p.segments ≠ [] := by
  rw [segments, segmentsOf, Text.split, ne_eq, List.map_eq_nil_iff]
  exact Text.splitOn_ne_nil _ _

theorem ofText?_text (p : FieldPath) : ofText? p.text = some p := by
  simp [ofText?, p.valid]

theorem text_of_ofText? {text : String} {p : FieldPath} (h : ofText? text = some p) :
    p.text = text := by
  unfold ofText? at h
  split at h
  · cases h; rfl
  · cases h

end FieldPath
end Signoff
