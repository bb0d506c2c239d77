import Signoff.Pattern.Basic

/-!
Classes by name: the Unicode properties, general categories and scripts of `\p`, and the ASCII
classes in brackets. Names are compared without case, blanks, hyphens and underscores.
-/

namespace Signoff.Pattern.Named

open Text (CharSet)
open Text

/-- The form of a name that is compared. -/
def normal (name : String) : String :=
  let cs := name.toList.filter fun c => c.toNat < 128
  let (isNamed, rest) := match cs with
    | i :: s :: rest =>
      if [i, s].map Text.lowerAscii = ['i', 's'] then (true, rest) else (false, cs)
    | _ => (false, cs)
  let kept := (rest.filter fun c => c ≠ ' ' && c ≠ '_' && c ≠ '-').map Text.lowerAscii
  if isNamed && kept = ['c'] then "isc" else String.ofList kept

/-- The names of the general categories, and the short names of what they hold. -/
def categories : List (List String × List String) := [
  (["lu", "uppercaseletter"], ["Lu"]), (["ll", "lowercaseletter"], ["Ll"]),
  (["lt", "titlecaseletter"], ["Lt"]), (["lc", "casedletter"], ["Lu", "Ll", "Lt"]),
  (["lm", "modifierletter"], ["Lm"]), (["lo", "otherletter"], ["Lo"]),
  (["l", "letter"], ["Lu", "Ll", "Lt", "Lm", "Lo"]),
  (["mn", "nonspacingmark"], ["Mn"]), (["mc", "spacingmark"], ["Mc"]),
  (["me", "enclosingmark"], ["Me"]), (["m", "mark", "combiningmark"], ["Mn", "Mc", "Me"]),
  (["nd", "decimalnumber", "digit"], ["Nd"]), (["nl", "letternumber"], ["Nl"]),
  (["no", "othernumber"], ["No"]), (["n", "number"], ["Nd", "Nl", "No"]),
  (["pc", "connectorpunctuation"], ["Pc"]), (["pd", "dashpunctuation"], ["Pd"]),
  (["ps", "openpunctuation"], ["Ps"]), (["pe", "closepunctuation"], ["Pe"]),
  (["pi", "initialpunctuation"], ["Pi"]), (["pf", "finalpunctuation"], ["Pf"]),
  (["po", "otherpunctuation"], ["Po"]),
  (["p", "punctuation", "punct"], ["Pc", "Pd", "Ps", "Pe", "Pi", "Pf", "Po"]),
  (["sm", "mathsymbol"], ["Sm"]), (["sc", "currencysymbol"], ["Sc"]),
  (["sk", "modifiersymbol"], ["Sk"]), (["so", "othersymbol"], ["So"]),
  (["s", "symbol"], ["Sm", "Sc", "Sk", "So"]),
  (["zs", "spaceseparator"], ["Zs"]), (["zl", "lineseparator"], ["Zl"]),
  (["zp", "paragraphseparator"], ["Zp"]), (["z", "separator"], ["Zs", "Zl", "Zp"]),
  (["cc", "control", "cntrl"], ["Cc"]), (["cf", "format"], ["Cf"]),
  (["co", "privateuse"], ["Co"]), (["cs", "surrogate"], [])]

/-- Every category of characters that are assigned. -/
def assigned : List String := Category.written.map (·.1)

def ofCategories (names : List String) : CharClass := .named (.ofCategories names)

/-- The class of a general category. -/
def category? (name : String) : Option CharClass :=
  if name = "any" then some (.compl .nothing)
  else if name = "ascii" then some (.range 0 127)
  else if name = "assigned" then some (ofCategories assigned)
  else if name = "cn" ∨ name = "unassigned" then some (.compl (ofCategories assigned))
  else if name = "c" ∨ name = "other" then
    some (.compl (ofCategories (assigned.filter fun n => !(["Cc", "Cf", "Co"].contains n))))
  else (categories.find? (·.1.contains name)).map fun (_, held) => ofCategories held

/-- Other names of properties. -/
def propertyAliases : List (String × String) := [
  ("alpha", "alphabetic"), ("upper", "uppercase"), ("lower", "lowercase"),
  ("wspace", "whitespace"), ("space", "whitespace"), ("ahex", "asciihexdigit"),
  ("hex", "hexdigit"), ("ci", "caseignorable"), ("dia", "diacritic"), ("epres", "emojipresentation"),
  ("extpict", "extendedpictographic"), ("grext", "graphemeextend"), ("idc", "idcontinue"),
  ("ids", "idstart"), ("ideo", "ideographic"), ("joinc", "joincontrol"), ("patsyn", "patternsyntax"),
  ("patws", "patternwhitespace"), ("qmark", "quotationmark"), ("xidc", "xidcontinue"),
  ("xids", "xidstart")]

/-- The class of a property that a character has or lacks. -/
def property? (name : String) : Option CharClass :=
  let name := (propertyAliases.lookup name).getD name
  if name = "cased" then
    some (.union (.named Property.lowercase)
      (.union (.named Property.uppercase) (.named Property.titlecase)))
  else (Property.all.find? fun (long, _) => normal long = name).map fun (_, set) => .named set

/-- The class of a script. -/
def script? (name : String) : Option CharClass :=
  (Text.Script.all.find? fun (names, _) => names.any fun n => normal n = name).map
    fun (_, ranges) => .named ⟨[], ranges, .empty⟩

/-- The class of a name that stands alone. -/
def ofName? (name : String) : Option CharClass :=
  let name := normal name
  let byProperty := if ["cf", "sc", "lc"].contains name then none else property? name
  byProperty <|> category? name <|> script? name

/-- The class of a property that has this value. -/
def ofValue? (property value : String) : Option CharClass :=
  let property := normal property
  let value := normal value
  if property = "gc" ∨ property = "generalcategory" then category? value
  else if property = "sc" ∨ property = "script" then script? value
  else if property = "scx" ∨ property = "scriptextensions" then script? value
  else none

/-- The ASCII classes that stand in brackets of their own. -/
def asciiClasses : List (String × List (Nat × Nat)) := [
  ("alnum", [(0x30, 0x39), (0x41, 0x5A), (0x61, 0x7A)]),
  ("alpha", [(0x41, 0x5A), (0x61, 0x7A)]),
  ("ascii", [(0x00, 0x7F)]),
  ("blank", [(0x09, 0x09), (0x20, 0x20)]),
  ("cntrl", [(0x00, 0x1F), (0x7F, 0x7F)]),
  ("digit", [(0x30, 0x39)]),
  ("graph", [(0x21, 0x7E)]),
  ("lower", [(0x61, 0x7A)]),
  ("print", [(0x20, 0x7E)]),
  ("punct", [(0x21, 0x2F), (0x3A, 0x40), (0x5B, 0x60), (0x7B, 0x7E)]),
  ("space", [(0x09, 0x0D), (0x20, 0x20)]),
  ("upper", [(0x41, 0x5A)]),
  ("word", [(0x30, 0x39), (0x41, 0x5A), (0x5F, 0x5F), (0x61, 0x7A)]),
  ("xdigit", [(0x30, 0x39), (0x41, 0x46), (0x61, 0x66)])]

/-- The ASCII class of a name. -/
def ascii? (name : String) : Option CharClass := (asciiClasses.lookup name).map .ofRanges

end Signoff.Pattern.Named
