import Signoff.Condition.Basic

/-!
Why a value is no condition, and where in it that shows.
-/

namespace Signoff.Condition

/-- One step into the JSON form of a condition. -/
inductive Step where
  | member (name : String)
  /-- An item of the list under a name. -/
  | item (name : String) (index : Nat)
  deriving DecidableEq, Repr

def Step.text : Step → String
  | .member name => "." ++ name
  | .item name index => "." ++ name ++ "[" ++ toString index ++ "]"

/-- The text of a path; the root is a dollar sign. -/
def pathText (path : List Step) : String := path.foldl (fun s step => s ++ step.text) "$"

/-- What is wrong. -/
inductive Reason where
  | tooDeep
  | unknownOperator (name : String)
  | missingValue (op : Operator)
  | invalidRegex
  | notObject
  | emptyObject
  | severalKeys
  | unknownKey (name : String)
  | unknownLeafKey (name : String)
  | notList
  | notTakesOne
  | missingField
  | fieldNotText
  | invalidPath (text : String)
  | missingOp
  | opNotText
  | presentTakesBool
  | orderTakesScalar (op : Operator)
  | amongTakesList
  | regexTakesText
  deriving DecidableEq, Repr

/-- What is wrong with a condition, and where. -/
structure Error where
  path : List Step
  reason : Reason
  deriving DecidableEq, Repr

/-- How deep conditions may be nested. -/
def maxDepth : Nat := 32

def Reason.text : Reason → String
  | .tooDeep => "condition nested deeper than " ++ toString maxDepth ++ " levels"
  | .unknownOperator name => "unknown operator '" ++ name ++ "'"
  | .missingValue op => "operator '" ++ op.name ++ "' requires a value"
  | .invalidRegex => "invalid regex"
  | .notObject => "expected a condition object"
  | .emptyObject => "empty condition object"
  | .severalKeys => "a group must have exactly one of 'all', 'any' or 'not'"
  | .unknownKey name => "unknown key '" ++ name ++ "'"
  | .unknownLeafKey name => "unknown key '" ++ name ++ "' in leaf"
  | .notList => "expected a list of conditions"
  | .notTakesOne => "'not' takes a single condition"
  | .missingField => "missing 'field'"
  | .fieldNotText => "'field' must be a string"
  | .invalidPath text => "invalid field path '" ++ text ++ "'"
  | .missingOp => "missing 'op'"
  | .opNotText => "'op' must be a string"
  | .presentTakesBool => "'exists' takes a boolean value"
  | .orderTakesScalar op => "'" ++ op.name ++ "' compares against a string or number"
  | .amongTakesList => "'in' takes a list"
  | .regexTakesText => "'regex' takes a string pattern"

def Error.message (e : Error) : String := pathText e.path ++ ": " ++ e.reason.text

/-- An error seen from one step further out. -/
def Error.under (step : Step) (e : Error) : Error := { e with path := step :: e.path }

end Signoff.Condition
