import Signoff.Double.Basic

/-!
JSON values. Numbers keep their kind, integer or double, and the members of an object are listed
once each in the order of their names.
-/

namespace Signoff

namespace Json

/-- A number as its text wrote it: whole and of machine size, or a double. -/
inductive Number where
  | int (n : Int)
  | real (x : Double)
  deriving DecidableEq, Repr, Inhabited

/-- The value of a number as a double. -/
def Number.toDouble : Number → Double
  | .int n => .ofInt n
  | .real x => x

/-- Same kind and same value. -/
def Number.same : Number → Number → Bool
  | .int m, .int n => m == n
  | .real x, .real y => x.same y
  | _, _ => false

end Json

/-- A JSON value. -/
inductive Json where
  | null
  | bool (b : Bool)
  | num (n : Json.Number)
  | str (s : String)
  | arr (items : List Json)
  | obj (members : List (String × Json))
  deriving Repr, Inhabited

namespace Json

/-- Members in the order of their names, each name once. -/
abbrev Object := List (String × Json)

namespace Object

/-- The value under a name. -/
def get? : Object → String → Option Json
  | [], _ => none
  | (k, v) :: rest, name => if k = name then some v else get? rest name

def contains (o : Object) (name : String) : Bool := (get? o name).isSome

/-- Puts a value under a name, in its place in the order; an earlier value of the name goes. -/
def insert : Object → String → Json → Object
  | [], name, value => [(name, value)]
  | (k, v) :: rest, name, value =>
    if name < k then (name, value) :: (k, v) :: rest
    else if k = name then (name, value) :: rest
    else (k, v) :: insert rest name value

/-- The object of a list of members, later ones replacing earlier ones of the same name. -/
def ofList (members : List (String × Json)) : Object :=
  members.foldl (fun o m => insert o m.1 m.2) []

def names (o : Object) : List String := o.map (·.1)

@[simp] theorem get?_nil (name : String) : get? [] name = none := rfl

theorem get?_insert_self (o : Object) (name : String) (value : Json) :
    get? (insert o name value) name = some value := by
  induction o with
  | nil => simp [insert, get?]
  | cons m rest ih =>
    obtain ⟨k, v⟩ := m
    rw [insert]
    split
    · simp [get?]
    · split
      · simp [get?]
      · next hk => simp [get?, hk, ih]

theorem get?_insert_of_ne (o : Object) {name other : String} (value : Json) (h : other ≠ name) :
    get? (insert o name value) other = get? o other := by
  induction o with
  | nil => simp [insert, get?, Ne.symm h]
  | cons m rest ih =>
    obtain ⟨k, v⟩ := m
    rw [insert]
    split
    · simp [get?, Ne.symm h]
    · split
      · next hk => subst hk; simp [get?, Ne.symm h]
      · simp [get?, ih]

end Object

def int (n : Int) : Json := .num (.int n)

/-- The object with these members. -/
def ofMembers (members : List (String × Json)) : Json := .obj (Object.ofList members)

def real (x : Double) : Json := .num (.real x)

/-- A value that may be absent; null then. -/
def ofOption {α : Type} (f : α → Json) : Option α → Json
  | none => .null
  | some a => f a

/-- An optional text. -/
def ofText? : Option String → Json := ofOption .str

mutual

/-- Equality of values, numbers by kind and value. -/
def same : Json → Json → Bool
  | .null, .null => true
  | .bool a, .bool b => a == b
  | .num a, .num b => a.same b
  | .str a, .str b => a == b
  | .arr a, .arr b => sameItems a b
  | .obj a, .obj b => sameMembers a b
  | _, _ => false

def sameItems : List Json → List Json → Bool
  | [], [] => true
  | a :: as, b :: bs => same a b && sameItems as bs
  | _, _ => false

def sameMembers : List (String × Json) → List (String × Json) → Bool
  | [], [] => true
  | (k, a) :: as, (l, b) :: bs => k == l && same a b && sameMembers as bs
  | _, _ => false

end

end Json
end Signoff
