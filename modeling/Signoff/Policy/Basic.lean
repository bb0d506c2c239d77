import Signoff.Condition.Basic
import Signoff.Condition.Reader
import Signoff.Instant.Json

/-!
Policies: which records they match, and what they propose to do with them. A body is what an author
decides about; a policy is a body that was filed under a number.
-/

namespace Signoff

/-- What a policy says. -/
structure Policy.Body where
  name : String
  /-- Policies of lower priority come first. -/
  priority : Int
  enabled : Bool
  condition : Condition
  actionType : String
  params : Json
  /-- How sure the author is, carried onto proposals. -/
  confidence : Double
  rationale : String

/-- A policy. -/
structure Policy where
  id : Int
  body : Policy.Body
  created : Instant
  updated : Instant

namespace Policy

/-- The number of a policy that is only tried out. -/
def candidateId : Int := 0

/-- A policy that is only tried out: it counts as enabled. -/
def candidate (body : Body) (now : Instant) : Policy :=
  ⟨candidateId, { body with enabled := true }, now, now⟩

/-- The members that a body has in JSON. -/
def Body.members (b : Body) : List (String × Json) :=
  [("name", .str b.name), ("priority", .int b.priority), ("enabled", .bool b.enabled),
    ("condition", b.condition.toJson), ("action_type", .str b.actionType),
    ("action_params", b.params), ("confidence_threshold", .real b.confidence),
    ("rationale_template", .str b.rationale)]

def Body.toJson (b : Body) : Json := .ofMembers b.members

def toJson (p : Policy) : Json :=
  .ofMembers (("id", .int p.id) :: p.body.members
    ++ [("created_at", p.created.toJson), ("updated_at", p.updated.toJson)])

/-- Reads a condition; what is no condition does not fit. -/
def conditionDecoder : Json.Decoder Condition := fun levels doc =>
  match Json.Decoder.value levels doc with
  | .error e => .error e
  | .ok v => (Condition.ofJson v).mapError fun _ => .mismatch

open Json.Decoder in
/-- The JSON form of a policy; every member has to be there. -/
def decoder : Json.Decoder Policy :=
  record <| (fun id name priority enabled condition actionType params confidence rationale created
      updated => ⟨id, ⟨name, priority, enabled, condition, actionType, params, confidence,
        rationale⟩, created, updated⟩)
    <$> field ["id"] int64
    <*> field ["name"] string
    <*> field ["priority"] int64
    <*> field ["enabled"] bool
    <*> field ["condition"] conditionDecoder
    <*> field ["action_type"] string
    <*> field ["action_params"] value
    <*> field ["confidence_threshold"] double
    <*> field ["rationale_template"] string
    <*> field ["created_at"] Instant.decoder
    <*> field ["updated_at"] Instant.decoder

end Policy
end Signoff
