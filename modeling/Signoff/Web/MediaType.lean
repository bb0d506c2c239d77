/-!
Media types: a kind and a subtype, which may end in a suffix behind a plus sign, and parameters
behind semicolons.
-/

namespace Signoff.Web

/-- A media type, in small letters and without its parameters. -/
structure MediaType where
  kind : String
  subtype : String
  suffix : Option String
  deriving DecidableEq, Repr

namespace MediaType

/-- The characters of names. -/
def isToken (c : Char) : Bool := c.isAlphanum || "!#$%&'*+-.^_`|~".toList.contains c

/-- The characters between quotes. -/
def isQuoted (c : Char) : Bool := 32 ≤ c.toNat && c.toNat < 127

/-- How far a parameter was read. -/
inductive Place where
  | before
  | name
  | equals
  | value
  | quote
  | quoted
  | after

/-- Reads one more character of a parameter. -/
def Place.next (c : Char) : Place → Option Place
  | .before => if c = ' ' then some .before else if isToken c then some .name else none
  | .name => if c = '=' then some .equals else if isToken c then some .name else none
  | .equals => if c = '"' then some .quote else if isToken c then some .value else none
  | .value => if c = ';' then some .before else if isToken c then some .value else none
  | .quote => if isQuoted c then some .quoted else none
  | .quoted => if c = '"' then some .after else if isQuoted c then some .quoted else none
  | .after => if c = ';' then some .before else if c = ' ' then some .after else none

/-- Whether parameters may end here. -/
def Place.mayEnd : Place → Bool
  | .before | .equals | .value | .after => true
  | _ => false

/-- Whether characters are parameters, on from a place. -/
def areParameters : Place → List Char → Bool
  | place, [] => place.mayEnd
  | place, c :: rest => (place.next c).any (areParameters · rest)

/-- A subtype and its suffix: what stands behind the last plus sign, unless it comes first. -/
def partSuffix (cs : List Char) : List Char × Option (List Char) :=
  let suffix := (cs.reverse.takeWhile (· ≠ '+')).reverse
  let rest := cs.take (cs.length - suffix.length - 1)
  if rest.isEmpty then (cs, none) else (rest, some suffix)

def ofText? (text : String) : Option MediaType :=
  let cs := text.toList
  let kind := cs.takeWhile (· ≠ '/')
  let rest := (cs.dropWhile (· ≠ '/')).drop 1
  let subtype := rest.takeWhile (· ≠ ';')
  let parameters := (rest.dropWhile (· ≠ ';')).drop 1
  if cs.contains '/' && !kind.isEmpty && kind.all isToken && subtype.all isToken
      && (!subtype.isEmpty || !rest.contains ';') && areParameters .before parameters then
    let small (s : List Char) : String := String.ofList (s.map Char.toLower)
    let (subtype, suffix) := partSuffix subtype
    some ⟨small kind, small subtype, suffix.map small⟩
  else none

/-- Whether a type says that its documents are JSON. -/
def isJson (m : MediaType) : Bool :=
  m.kind == "application" && (m.subtype == "json" || m.suffix == some "json")

end MediaType
end Signoff.Web
