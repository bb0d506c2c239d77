import Signoff.Audit.Actor
import Signoff.Execution.Outcome
import Signoff.Proposal.Basic

/-!
The ledger: one entry for each proposal that came to its end, and queries for entries.
-/

namespace Signoff.Audit

/-- An entry of the ledger. -/
structure Entry where
  id : Uuid
  proposalId : Option Uuid
  actionType : String
  actor : Actor
  policyId : Option Int
  confidence : Double
  rationale : String
  /-- The status that the proposal came to. -/
  outcome : Status
  payload : Json
  /-- The record that was decided about. -/
  evidence : Option String
  created : Instant

namespace Entry

/-- The entry on a proposal. -/
def ofProposal (id : Uuid) (p : Proposal) (actor : Actor) (outcome : Status) (payload : Json)
    (now : Instant) : Entry where
  id := id
  proposalId := some p.id
  actionType := p.actionType
  actor := actor
  policyId := p.policyId
  confidence := p.confidence
  rationale := p.rationale
  outcome := outcome
  payload := payload
  evidence := some p.recordId
  created := now

/-- The entry on a proposal that was carried out. -/
def ofExecution (id : Uuid) (p : Proposal) (actor : Actor) (o : Outcome) (now : Instant) : Entry :=
  ofProposal id p actor (if o.success then .executed else .failed)
    (.ofMembers [("success", .bool o.success), ("error", .ofText? o.error),
      ("response", o.response.getD .null), ("params", p.params)]) now

/-- The entry on a proposal that was rejected. -/
def ofRejection (id : Uuid) (p : Proposal) (actor : Actor) (reason : Option String)
    (now : Instant) : Entry :=
  ofProposal id p actor .rejected (.ofMembers [("reason", .ofText? reason)]) now

def toJson (e : Entry) : Json :=
  .ofMembers [("id", e.id.toJson), ("proposed_action_id", .ofOption Uuid.toJson e.proposalId),
    ("action_type", .str e.actionType), ("actor", e.actor.toJson),
    ("policy_id", .ofOption .int e.policyId), ("confidence", .real e.confidence),
    ("rationale", .str e.rationale), ("outcome", e.outcome.toJson), ("payload", e.payload),
    ("evidence_ref", .ofText? e.evidence), ("created_at", e.created.toJson)]

open Json.Decoder in
def decoder : Json.Decoder Entry :=
  record <| Entry.mk
    <$> field ["id"] Uuid.decoder
    <*> optionalField "proposed_action_id" Uuid.decoder
    <*> field ["action_type"] string
    <*> field ["actor"] Actor.decoder
    <*> optionalField "policy_id" int64
    <*> field ["confidence"] double
    <*> field ["rationale"] string
    <*> field ["outcome"] Status.decoder
    <*> field ["payload"] value
    <*> optionalField "evidence_ref" string
    <*> field ["created_at"] Instant.decoder

end Entry

/-- Which entries are asked for; the ends of the time span belong to it. -/
structure Filter where
  actionType : Option String
  status : Option Status
  since : Option Instant
  till : Option Instant
  limit : Option Nat

namespace Filter

def defaultLimit : Nat := 100

def maxLimit : Nat := 1000

/-- How many entries a query gives at most. -/
def effectiveLimit (f : Filter) : Nat := max 1 (min (f.limit.getD defaultLimit) maxLimit)

/-- Asks for everything. -/
def any : Filter := ⟨none, none, none, none, none⟩

open Json.Decoder in
def decoder : Json.Decoder Filter :=
  record <| Filter.mk
    <$> optionalField "action_type" string
    <*> optionalField "status" Status.decoder
    <*> optionalField "from" Instant.decoder
    <*> optionalField "to" Instant.decoder
    <*> optionalField "limit" natural

end Filter
end Signoff.Audit
