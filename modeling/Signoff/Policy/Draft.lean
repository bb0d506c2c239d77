import Signoff.Policy.Basic
import Signoff.Text.Blank

/-!
Drafts: policies as authors submit them, with the condition still in JSON. A draft that passes gives
the body of a policy, cleaned of blank ends and with its gaps filled.
-/

namespace Signoff.Policy

/-- A policy as it is submitted. -/
structure Draft where
  name : String
  priority : Int
  enabled : Bool
  condition : Json
  actionType : String
  params : Json
  confidence : Double
  rationale : String

namespace Draft

/-- What is wrong with a draft. -/
inductive Flaw where
  | condition (e : Condition.Error)
  | noActionType
  | confidenceOutOfRange (x : Double)
  | paramsNotObject
  /-- The condition that is stored under the policy cannot be read, for this reason. -/
  | unreadable (reason : String)

/-- The text about a member that does not fit. -/
def fieldText (name reason : String) : String := "Invalid policy field " ++ name ++ ": " ++ reason

def Flaw.message : Flaw → String
  | .condition e => "Invalid condition: " ++ e.message
  | .noActionType => fieldText "action_type" "must not be empty"
  | .confidenceOutOfRange x =>
    fieldText "confidence_threshold" (x.text .plain ++ " is outside 0..1")
  | .paramsNotObject => fieldText "action_params" "must be an object"
  | .unreadable reason => fieldText "condition" reason

/-- The parameters of an action: none given is the empty object. -/
def readParams : Json → Except Flaw Json
  | .null => .ok (.obj [])
  | .obj members => .ok (.obj members)
  | _ => .error .paramsNotObject

/-- The name, or what the policy does when it has none. -/
def nameOr (name actionType : String) : String :=
  if Text.isBlankText name then Text.trim actionType else Text.trim name

/-- The body of the policy, if the draft can become one. -/
def validate (d : Draft) : Except Flaw Body := do
  let condition ← (Condition.ofJson d.condition).mapError .condition
  if Text.isBlankText d.actionType then throw .noActionType
  if !d.confidence.inUnit then throw (.confidenceOutOfRange d.confidence)
  let params ← readParams d.params
  return ⟨nameOr d.name d.actionType, d.priority, d.enabled, condition, Text.trim d.actionType,
    params, d.confidence, d.rationale⟩

/-- The draft that says what a body says. -/
def ofBody (b : Body) : Draft :=
  ⟨b.name, b.priority, b.enabled, b.condition.toJson, b.actionType, b.params, b.confidence,
    b.rationale⟩

def toJson (d : Draft) : Json :=
  .ofMembers [("name", .str d.name), ("priority", .int d.priority), ("enabled", .bool d.enabled),
    ("condition", d.condition), ("action_type", .str d.actionType), ("action_params", d.params),
    ("confidence_threshold", .real d.confidence), ("rationale_template", .str d.rationale)]

open Json.Decoder in
/-- The JSON form of a draft; authors may use short names and leave out what has a default. -/
def decoder : Json.Decoder Draft :=
  record <| Draft.mk
    <$> field ["name"] string (.default "")
    <*> field ["priority"] int64 (.default 0)
    <*> field ["enabled"] bool (.default false)
    <*> field ["condition"] value
    <*> field ["action_type", "action"] string
    <*> field ["action_params", "params"] value (.default .null)
    <*> field ["confidence_threshold", "confidence"] double
    <*> field ["rationale_template", "rationale"] string (.default "")

end Draft
end Signoff.Policy
