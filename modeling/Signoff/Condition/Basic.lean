import Signoff.FieldPath
import Signoff.Json.Basic
import Signoff.Pattern

/-!
Conditions on records: trees of groups over tests of single fields, and the JSON that authors write
for them.
-/

namespace Signoff

/-- The names of tests. -/
inductive Operator where
  | eq
  | neq
  | lt
  | lte
  | gt
  | gte
  | among
  | contains
  | regex
  | present
  deriving DecidableEq, Repr

namespace Operator

def all : List Operator := [eq, neq, lt, lte, gt, gte, among, contains, regex, present]

def name : Operator → String
  | .eq => "eq"
  | .neq => "neq"
  | .lt => "lt"
  | .lte => "lte"
  | .gt => "gt"
  | .gte => "gte"
  | .among => "in"
  | .contains => "contains"
  | .regex => "regex"
  | .present => "exists"

def ofName? (name : String) : Option Operator := all.find? (·.name = name)

theorem ofName?_name (op : Operator) : ofName? op.name = some op := by
  cases op <;> decide

theorem name_of_ofName? {name : String} {op : Operator} (h : ofName? name = some op) :
    op.name = name := by
  simpa using List.find?_some h

end Operator

/-- What a field is ordered against. -/
inductive Bound where
  | text (s : String)
  | number (n : Json.Number)
  deriving DecidableEq, Repr

def Bound.toJson : Bound → Json
  | .text s => .str s
  | .number n => .num n

/-- A test of the value of a field. -/
inductive Test where
  | eq (operand : Json)
  | neq (operand : Json)
  | lt (bound : Bound)
  | lte (bound : Bound)
  | gt (bound : Bound)
  | gte (bound : Bound)
  | among (items : List Json)
  | contains (needle : Json)
  | regex (pattern : Pattern)
  /-- Whether the field is there, or is not. -/
  | present (expected : Bool)

namespace Test

def operator : Test → Operator
  | .eq _ => .eq
  | .neq _ => .neq
  | .lt _ => .lt
  | .lte _ => .lte
  | .gt _ => .gt
  | .gte _ => .gte
  | .among _ => .among
  | .contains _ => .contains
  | .regex _ => .regex
  | .present _ => .present

/-- The value that stands beside the operator. -/
def operand : Test → Json
  | .eq v | .neq v | .contains v => v
  | .lt b | .lte b | .gt b | .gte b => b.toJson
  | .among items => .arr items
  | .regex p => .str p.text
  | .present expected => .bool expected

end Test

/-- A condition on a record. -/
inductive Condition where
  | all (conditions : List Condition)
  | any (conditions : List Condition)
  | not (condition : Condition)
  | leaf (field : FieldPath) (test : Test)

namespace Condition

mutual

/-- The form that authors write, with every value spelled out. -/
def toJson : Condition → Json
  | .all cs => .obj [("all", .arr (toJsonList cs))]
  | .any cs => .obj [("any", .arr (toJsonList cs))]
  | .not c => .obj [("not", toJson c)]
  | .leaf field test =>
    .obj [("field", .str field.text), ("op", .str test.operator.name), ("value", test.operand)]

def toJsonList : List Condition → List Json
  | [] => []
  | c :: cs => toJson c :: toJsonList cs

end

mutual

/-- Whether two conditions are the same tree; operands are compared by kind and value. -/
def same : Condition → Condition → Bool
  | .all a, .all b => sameList a b
  | .any a, .any b => sameList a b
  | .not a, .not b => same a b
  | .leaf f s, .leaf g t =>
    decide (f = g) && decide (s.operator = t.operator) && s.operand.same t.operand
  | _, _ => false

def sameList : List Condition → List Condition → Bool
  | [], [] => true
  | a :: as, b :: bs => same a b && sameList as bs
  | _, _ => false

end

end Condition
end Signoff
