import Signoff.Condition.Error

/-!
Reading conditions out of JSON. An object with a `field` or an `op` is a test; any other has to be
a group with one member.
-/

namespace Signoff.Condition

/-- The names that a test may have. -/
def leafKeys : List String := ["field", "op", "value"]

/-- What a bound of an order is read from. -/
def readBound (op : Operator) : Json → Except Reason Bound
  | .str s => .ok (.text s)
  | .num n => .ok (.number n)
  | _ => .error (.orderTakesScalar op)

/-- The test of an operator and its value, if it has one. -/
def readTest (op : Operator) (value : Option Json) : Except Reason Test :=
  match op, value with
  | .present, none => .ok (.present true)
  | .present, some (.bool b) => .ok (.present b)
  | .present, some _ => .error .presentTakesBool
  | op, none => .error (.missingValue op)
  | .eq, some v => .ok (.eq v)
  | .neq, some v => .ok (.neq v)
  | .contains, some v => .ok (.contains v)
  | .lt, some v => (readBound .lt v).map .lt
  | .lte, some v => (readBound .lte v).map .lte
  | .gt, some v => (readBound .gt v).map .gt
  | .gte, some v => (readBound .gte v).map .gte
  | .among, some (.arr items) => .ok (.among items)
  | .among, some _ => .error .amongTakesList
  | .regex, some (.str s) =>
    match Pattern.ofText? s with
    | some p => .ok (.regex p)
    | none => .error .invalidRegex
  | .regex, some _ => .error .regexTakesText

/-- An error at a member of the node at hand. -/
def atMember (name : String) (reason : Reason) : Error := ⟨[.member name], reason⟩

/-- The path under `field`. -/
def readField (members : Json.Object) : Except Error FieldPath :=
  match Json.Object.get? members "field" with
  | none => .error (atMember "field" .missingField)
  | some (.str s) =>
    match FieldPath.ofText? s with
    | some path => .ok path
    | none => .error (atMember "field" (.invalidPath s))
  | some _ => .error (atMember "field" .fieldNotText)

/-- The operator under `op`. -/
def readOperator (members : Json.Object) : Except Error Operator :=
  match Json.Object.get? members "op" with
  | none => .error (atMember "op" .missingOp)
  | some (.str s) =>
    match Operator.ofName? s with
    | some op => .ok op
    | none => .error (atMember "op" (.unknownOperator s))
  | some _ => .error (atMember "op" .opNotText)

/-- A test of one field. -/
def readLeaf (members : Json.Object) : Except Error Condition :=
  match members.find? fun m => !leafKeys.contains m.1 with
  | some (name, _) => .error ⟨[], .unknownLeafKey name⟩
  | none => do
    let field ← readField members
    let op ← readOperator members
    match readTest op (Json.Object.get? members "value") with
    | .ok test => return .leaf field test
    | .error reason => .error (atMember "value" reason)

/-- Reads items from an index on; the first that is refused decides. -/
def readItems (name : String) (read : Json → Except Error Condition) :
    Nat → List Json → Except Error (List Condition)
  | _, [] => .ok []
  | index, v :: rest =>
    match read v with
    | .error e => .error (e.under (.item name index))
    | .ok c => (readItems name read (index + 1) rest).map (c :: ·)

/-- The list of a group. -/
def readList (name : String) (read : Json → Except Error Condition) :
    Json → Except Error (List Condition)
  | .arr items => readItems name read 0 items
  | _ => .error (atMember name .notList)

/-- A group of one member. -/
def readGroup (read : Json → Except Error Condition) (name : String) (v : Json) :
    Except Error Condition :=
  if name = "all" then (readList name read v).map .all
  else if name = "any" then (readList name read v).map .any
  else if name = "not" then
    match v with
    | .arr _ => .error (atMember name .notTakesOne)
    | v => match read v with
      | .ok c => .ok (.not c)
      | .error e => .error (e.under (.member name))
  else .error ⟨[], .unknownKey name⟩

/-- Reads a condition that may have this many levels, its own among them. -/
def readWithin : Nat → Json → Except Error Condition
  | 0, _ => .error ⟨[], .tooDeep⟩
  | levels + 1, .obj members =>
    if Json.Object.contains members "field" || Json.Object.contains members "op" then
      readLeaf members
    else
      match members with
      | [] => .error ⟨[], .emptyObject⟩
      | [(name, v)] => readGroup (readWithin levels) name v
      | _ => .error ⟨[], .severalKeys⟩
  | _ + 1, _ => .error ⟨[], .notObject⟩

/-- Reads a condition. -/
def ofJson (v : Json) : Except Error Condition := readWithin (maxDepth + 1) v

end Signoff.Condition
