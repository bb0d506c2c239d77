import Signoff.Context
import Signoff.Json.Printer

/-!
Templates for the reasons that proposals give. A placeholder is a path in braces; it becomes the
value at the path, and stays as it is where there is none. What was put in is not looked at again.
-/

namespace Signoff.Rationale

/-- A piece of a template. -/
inductive Piece where
  | char (c : Char)
  /-- A placeholder as it was written, and the path in it. -/
  | slot (written : List Char) (path : List Char)
  deriving DecidableEq, Repr

/-- The characters that paths in placeholders are written with. -/
def isPathChar (c : Char) : Bool :=
  c.isAlphanum || c == '_' || c == '.'

/-- Reads a placeholder whose opening brace is gone: what was written, the path, and the rest. -/
def slot? (s : List Char) : Option (List Char × List Char × List Char) :=
  let before := s.takeWhile Text.isBlank
  let s := s.dropWhile Text.isBlank
  let path := s.takeWhile isPathChar
  let s := s.dropWhile isPathChar
  let after := s.takeWhile Text.isBlank
  match path, s.dropWhile Text.isBlank with
  | _ :: _, '\x7d' :: rest => some ('\x7b' :: (before ++ path ++ after ++ ['\x7d']), path, rest)
  | _, _ => none

/-- Taking a placeholder off leaves less. -/
theorem slot?_length {s written path rest : List Char} (h : slot? s = some (written, path, rest)) :
    rest.length < s.length := by
  have drop_le : ∀ (p : Char → Bool) (l : List Char), (l.dropWhile p).length ≤ l.length :=
    fun p l => (List.dropWhile_suffix p).length_le
  simp only [slot?] at h
  split at h
  · next hd =>
    simp only [Option.some.injEq, Prod.mk.injEq] at h
    have h1 := drop_le Text.isBlank ((s.dropWhile Text.isBlank).dropWhile isPathChar)
    have h2 := drop_le isPathChar (s.dropWhile Text.isBlank)
    have h3 := drop_le Text.isBlank s
    rw [hd, List.length_cons, h.2.2] at h1
    omega
  · cases h

/-- The pieces of a template, from left to right. -/
def pieces : List Char → List Piece
  | [] => []
  | c :: rest =>
    if c = '\x7b' then
      match h : slot? rest with
      | some (written, path, after) =>
        have : after.length < rest.length := slot?_length h
        .slot written path :: pieces after
      | none => .char c :: pieces rest
    else .char c :: pieces rest
termination_by s => s.length
decreasing_by all_goals (simp only [List.length_cons]; omega)

/-- A value as it stands in a reason: text raw, all else as JSON. -/
def valueText : Json → String
  | .str s => s
  | v => v.render

/-- What a piece becomes. -/
def Piece.fill (ctx : Context) : Piece → List Char
  | .char c => [c]
  | .slot written path =>
    match ctx.lookup? (String.ofList path) with
    | some v => (valueText v).toList
    | none => written

/-- A template filled in. -/
def render (ctx : Context) (template : String) : String :=
  String.ofList ((pieces template.toList).flatMap (·.fill ctx))

/-- The reason that a policy gives: its template filled in, or its name when it has none. -/
def ofPolicy (ctx : Context) (name : String) (priority : Int) (template : String) : String :=
  if Text.isBlankText template then
    "Matched policy '" ++ name ++ "' (priority " ++ toString priority ++ ")"
  else render ctx template

end Signoff.Rationale
