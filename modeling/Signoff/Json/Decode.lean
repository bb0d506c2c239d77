import Signoff.Json.Document

/-!
Reading typed values out of documents. A decoder goes through a document in the order of its text,
so of several faults it reports the one that stands first.
-/

namespace Signoff.Json

/-- Why a document was refused: its text is no JSON there, or it does not fit the type. -/
inductive Fault where
  | malformed
  | mismatch
  deriving DecidableEq, Repr

/-- How many levels of lists and objects a text may have, less the one that is refused. -/
def maxLevels : Nat := 128

/-- Reads a document with this many levels left. -/
def Decoder (α : Type) := Nat → Document → Except Fault α

namespace Decoder

variable {α β : Type}

def map (f : α → β) (d : Decoder α) : Decoder β := fun levels doc => (d levels doc).map f

/-- Passes the value on to a check. -/
def bind? (d : Decoder α) (f : α → Option β) : Decoder β := fun levels doc =>
  match d levels doc with
  | .error e => .error e
  | .ok a => match f a with
    | some b => .ok b
    | none => .error .mismatch

/-- The fault of a document that is of another kind than asked for. -/
def refuse : Document → Fault
  | .unreadable | .broken => .malformed
  | _ => .mismatch

/-- Enters a list or an object. -/
def enter (levels : Nat) : Except Fault Nat :=
  if levels ≤ 1 then .error .malformed else .ok (levels - 1)

mutual

/-- Any value; of members with one name the last counts. -/
def value (levels : Nat) : Document → Except Fault Json
  | .null => .ok .null
  | .bool b => .ok (.bool b)
  | .num n => .ok (.num n)
  | .str s => .ok (.str s)
  | .arr items closed => do
    let levels ← enter levels
    let items ← values levels items
    if closed then .ok (.arr items) else .error .malformed
  | .obj members closed => do
    let levels ← enter levels
    let members ← memberValues levels members
    if closed then .ok (ofMembers members) else .error .malformed
  | .unreadable => .error .malformed
  | .broken => .error .malformed

def values (levels : Nat) : List Document → Except Fault (List Json)
  | [] => .ok []
  | d :: rest => do
    let a ← value levels d
    let as ← values levels rest
    return a :: as

def memberValues (levels : Nat) : List (String × Document) → Except Fault (List (String × Json))
  | [] => .ok []
  | (k, d) :: rest => do
    let a ← value levels d
    let as ← memberValues levels rest
    return (k, a) :: as

end

def bool : Decoder Bool := fun _ doc =>
  match doc with
  | .bool b => .ok b
  | d => .error (refuse d)

def string : Decoder String := fun _ doc =>
  match doc with
  | .str s => .ok s
  | d => .error (refuse d)

/-- A whole number between bounds. -/
def intBetween (low high : Int) : Decoder Int := fun _ doc =>
  match doc with
  | .num (.int n) => if low ≤ n ∧ n ≤ high then .ok n else .error .mismatch
  | d => .error (refuse d)

/-- A signed whole number of 64 bits. -/
def int64 : Decoder Int := intBetween (-0x8000000000000000) 0x7fffffffffffffff

/-- An unsigned whole number of 64 bits. -/
def natural : Decoder Nat := (intBetween 0 0xffffffffffffffff).map Int.toNat

/-- Any number, as a double. -/
def double : Decoder Double := fun _ doc =>
  match doc with
  | .num n => .ok n.toDouble
  | d => .error (refuse d)

/-- Null or a value. -/
def optional (d : Decoder α) : Decoder (Option α) := fun levels doc =>
  match doc with
  | .null => .ok none
  | doc => (d levels doc).map some

/-- The members of an object. -/
def object : Decoder Object := fun levels doc =>
  match doc with
  | .obj _ _ => (value levels doc).map fun
    | .obj members => members
    | _ => []
  | d => .error (refuse d)

/-- A list of values. -/
def list (d : Decoder α) : Decoder (List α) := fun levels doc =>
  match doc with
  | .arr items closed => do
    let levels ← enter levels
    let xs ← items.mapM (d levels)
    if closed then .ok xs else .error .malformed
  | doc => .error (refuse doc)

/-- A name out of a list of names; a name may also stand as the only member of an object, with
null under it. -/
def choice (f : String → Option α) : Decoder α := fun levels doc =>
  match doc with
  | .str s => match f s with
    | some a => .ok a
    | none => .error .mismatch
  | .obj ((k, v) :: rest) closed => do
    let _ ← enter levels
    match f k, v, rest, closed with
    | some a, .null, [], true => .ok a
    | some _, .null, _, _ => .error .malformed
    | _, d, _, _ => .error (refuse d)
  | .obj [] closed => .error (if closed then .mismatch else .malformed)
  | d => .error (refuse d)

/-- What to do about a field that an object lacks. -/
inductive Absent (α : Type) where
  /-- The field has to be there. -/
  | refused
  /-- The field has a value of its own, in objects and in lists. -/
  | default (a : α)
  /-- The field may be missing in objects only. -/
  | missing (a : α)

/-- The names of a field and a check of what stands under them. -/
structure Slot where
  names : List String
  check : Decoder Unit

/-- A reader of records: its slots, and how what stands in them makes the record. -/
structure Fields (α : Type) where
  slots : List Slot
  /-- The first argument says whether the record stands as a list. -/
  build : Bool → Nat → List (Option Document) → Except Fault α

/-- One field under any of some names. -/
def field (names : List String) (d : Decoder α) (absent : Absent α := .refused) : Fields α where
  slots := [⟨names, d.map fun _ => ()⟩]
  build listed levels
    | some doc :: _ => d levels doc
    | _ => match absent with
      | .refused => .error .mismatch
      | .default a => .ok a
      | .missing a => if listed then .error .mismatch else .ok a

/-- A field that is null or missing when there is nothing to say. -/
def optionalField (name : String) (d : Decoder α) : Fields (Option α) :=
  field [name] (optional d) (.missing none)

def Fields.pure (a : α) : Fields α := ⟨[], fun _ _ _ => .ok a⟩

def Fields.seq (f : Fields (α → β)) (x : Unit → Fields α) : Fields β where
  slots := f.slots ++ (x ()).slots
  build listed levels docs := do
    let g ← f.build listed levels (docs.take f.slots.length)
    let a ← (x ()).build listed levels (docs.drop f.slots.length)
    return g a

instance : Applicative Fields where
  pure := Fields.pure
  seq := Fields.seq

/-- Files members under their slots in the order of the text; a slot that is filled twice is a
fault, and a member without a slot counts for nothing. -/
def fileMembers (slots : List Slot) (levels : Nat) :
    List (String × Document) → List (Option Document) → Except Fault (List (Option Document))
  | [], filed => .ok filed
  | (name, doc) :: rest, filed =>
    match slots.findIdx? (·.names.contains name) with
    | none => fileMembers slots levels rest filed
    | some i =>
      if (filed[i]?.getD none).isSome then .error .mismatch
      else
        match slots[i]? with
        | none => fileMembers slots levels rest filed
        | some slot => do
          slot.check levels doc
          fileMembers slots levels rest (filed.set i (some doc))

/-- Files items one by one. -/
def fileItems (levels : Nat) : List Slot → List Document → Except Fault (List (Option Document))
  | [], _ => .ok []
  | slots, [] => .ok (slots.map fun _ => none)
  | slot :: slots, doc :: rest => do
    slot.check levels doc
    let filed ← fileItems levels slots rest
    return some doc :: filed

/-- A record of named fields, written as an object or as the list of its fields in order. -/
def record (fields : Fields α) : Decoder α := fun levels doc =>
  match doc with
  | .obj members closed => do
    let levels ← enter levels
    let filed ← fileMembers fields.slots levels members (fields.slots.map fun _ => none)
    if closed then fields.build false levels filed else .error .malformed
  | .arr items closed => do
    let levels ← enter levels
    let filed ← fileItems levels fields.slots items
    if items.length < fields.slots.length && !closed then .error .malformed
    else
      let a ← fields.build true levels filed
      if items.length > fields.slots.length || !closed then .error .malformed else .ok a
  | d => .error (refuse d)

/-- What stands beside a tag: nothing that counts, or the fields of a record. -/
inductive Kind (α : Type) where
  | bare (a : α)
  | fields (fields : Fields α)

/-- A record of one of several kinds. The member `tag` names the kind, once; in a list the name
comes first. -/
def tagged (tag : String) (kind : String → Option (Kind α)) : Decoder α := fun levels doc => do
  let _ ← value levels doc
  match doc with
  | .obj members _ =>
    match members.filter (·.1 = tag) with
    | [(_, .str name)] =>
      match kind name with
      | some (.bare a) => .ok a
      | some (.fields fields) => record fields levels (.obj (members.filter (·.1 ≠ tag)) true)
      | none => .error .mismatch
    | _ => .error .mismatch
  | .arr (.str name :: rest) _ =>
    match kind name with
    | some (.bare a) => if rest.isEmpty then .ok a else .error .mismatch
    | some (.fields fields) => record fields levels (.arr rest true)
    | none => .error .mismatch
  | _ => .error .mismatch

/-- Reads a value that is at hand. -/
def ofJson (d : Decoder α) (v : Json) : Except Fault α := d maxLevels (.ofJson v)

/-- Reads a whole text. -/
def ofText (d : Decoder α) (text : String) : Except Fault α :=
  match Document.ofText text with
  | (doc, ended) =>
    match d maxLevels doc with
    | .error e => .error e
    | .ok a => if ended then .ok a else .error .malformed

end Decoder

/-- The value of a text; none when it is no JSON or nested too deep. -/
def parse? (text : String) : Option Json :=
  match Decoder.ofText Decoder.value text with
  | .ok v => some v
  | .error _ => none

end Signoff.Json
