import Signoff.Decision
import Signoff.Proposal.Status
import Signoff.Uuid

/-!
Proposals: actions that wait for a decision, or that have had one.
-/

namespace Signoff

/-- A proposed action. -/
structure Proposal where
  id : Uuid
  recordId : String
  /-- What reviewers see of the record. -/
  summary : Json.Object
  actionType : String
  params : Json
  /-- The policy it comes from, also after that policy is gone. -/
  policyId : Option Int
  confidence : Double
  rationale : String
  status : Status
  created : Instant
  decidedAt : Option Instant
  decidedBy : Option String
  /-- Why it failed. -/
  error : Option String
  /-- The failed proposal that this one tries again. -/
  retryOf : Option Uuid

namespace Proposal

/-- A new proposal out of a match. -/
def ofMatch (id : Uuid) (m : Match) (now : Instant) : Proposal where
  id := id
  recordId := m.record.recordId
  summary := m.record.summary
  actionType := m.actionType
  params := m.params
  policyId := some m.policyId
  confidence := m.confidence
  rationale := m.rationale
  status := .pending
  created := now
  decidedAt := none
  decidedBy := none
  error := none
  retryOf := none

/-- A new proposal that tries this one again. -/
def retried (p : Proposal) (id : Uuid) (now : Instant) : Proposal :=
  { p with
    id := id
    status := .pending
    created := now
    decidedAt := none
    decidedBy := none
    error := none
    retryOf := some p.id }

/-- What the handler of the action gets to see of the record. -/
def record (p : Proposal) : Snapshot := ⟨p.recordId, p.summary⟩

def toJson (p : Proposal) : Json :=
  .ofMembers [("id", p.id.toJson), ("record_id", .str p.recordId), ("record_summary", .obj p.summary),
    ("action_type", .str p.actionType), ("params", p.params),
    ("policy_id", .ofOption .int p.policyId), ("confidence", .real p.confidence),
    ("rationale", .str p.rationale), ("status", p.status.toJson), ("created_at", p.created.toJson),
    ("decided_at", .ofOption Instant.toJson p.decidedAt), ("decided_by", .ofText? p.decidedBy),
    ("error", .ofText? p.error), ("retry_of", .ofOption Uuid.toJson p.retryOf)]

open Json.Decoder in
def decoder : Json.Decoder Proposal :=
  Json.Decoder.record <| Proposal.mk
    <$> field ["id"] Uuid.decoder
    <*> field ["record_id"] string
    <*> field ["record_summary"] object
    <*> field ["action_type"] string
    <*> field ["params"] value
    <*> optionalField "policy_id" int64
    <*> field ["confidence"] double
    <*> field ["rationale"] string
    <*> field ["status"] Status.decoder
    <*> field ["created_at"] Instant.decoder
    <*> optionalField "decided_at" Instant.decoder
    <*> optionalField "decided_by" string
    <*> optionalField "error" string
    <*> optionalField "retry_of" Uuid.decoder

end Proposal
end Signoff
