import Signoff.Audit.Entry
import Signoff.Policy.Basic
import Signoff.Store.Cell
import Signoff.Store.Error
import Signoff.Json.Printer

/-!
The rows of the store. What is written can be read, but others write to the same tables, so reading
a row may fail; the columns are looked at in a fixed order, and the first that cannot be read is
what is reported.
-/

namespace Signoff.Store

/-- A row of the table of policies; its number is its place in the table. -/
structure PolicyRow where
  id : Int
  name : Cell
  priority : Cell
  enabled : Cell
  condition : Cell
  actionType : Cell
  params : Cell
  confidence : Cell
  rationale : Cell
  created : Cell
  updated : Cell
  deriving DecidableEq, Repr

/-- A row of the table of proposals. -/
structure ProposalRow where
  id : Cell
  recordId : Cell
  summary : Cell
  actionType : Cell
  params : Cell
  policyId : Cell
  confidence : Cell
  rationale : Cell
  status : Cell
  created : Cell
  decidedAt : Cell
  decidedBy : Cell
  error : Cell
  retryOf : Cell
  deriving DecidableEq, Repr

/-- A row of the ledger. -/
structure EntryRow where
  id : Cell
  proposalId : Cell
  actionType : Cell
  actor : Cell
  policyId : Cell
  confidence : Cell
  rationale : Cell
  outcome : Cell
  payload : Cell
  evidence : Cell
  created : Cell
  deriving DecidableEq, Repr

/-- The value of a cell, or the complaint about its row. -/
def need {α : Type} (what : String) (a : Option α) : Except Error α :=
  match a with
  | some a => .ok a
  | none => .error (.query what)

def readJson (s : String) : Except Error Json :=
  match Json.parse? s with
  | some v => .ok v
  | none => .error .badJson

def readInstant (s : String) : Except Error Instant :=
  match Instant.ofRfc3339? s with
  | some t => .ok t
  | none => .error (.badTimestamp s)

def readUuid (s : String) : Except Error Uuid :=
  match Uuid.ofText? s with
  | some u => .ok u
  | none => .error (.badUuid s)

def readStatus (s : String) : Except Error Status :=
  match Status.ofName? s with
  | some status => .ok status
  | none => .error (.badStatus s)

/-- A column that may be empty; what is no text counts as empty. -/
def readOptional {α : Type} (read : String → Except Error α) (c : Cell) : Except Error (Option α) :=
  match c.text? with
  | some s => (read s).map some
  | none => .ok none

/-- An instant as it stands in a cell. -/
def instantCell (t : Instant) : Cell := .text t.sortableText

namespace PolicyRow

/-- The row of a policy that was just made. -/
def ofBody (id : Int) (b : Policy.Body) (now : Instant) : PolicyRow where
  id := id
  name := .text b.name
  priority := .integer b.priority
  enabled := .ofBool b.enabled
  condition := .text b.condition.toJson.render
  actionType := .text b.actionType
  params := .text b.params.render
  confidence := .ofDouble b.confidence
  rationale := .text b.rationale
  created := instantCell now
  updated := instantCell now

/-- The row with another body. -/
def update (r : PolicyRow) (b : Policy.Body) (now : Instant) : PolicyRow :=
  { ofBody r.id b now with created := r.created }

def what : String := "policy row"

def readCondition (id : Int) (s : String) : Except Error Condition := do
  let v ← readJson s
  (Condition.ofJson v).mapError (.badCondition id)

/-- The policy that stands in a row. -/
def read (r : PolicyRow) : Except Error Policy := do
  let conditionText ← need what r.condition.text?
  let condition ← readCondition r.id conditionText
  let paramsText ← need what r.params.text?
  let created ← need what r.created.text?
  let updated ← need what r.updated.text?
  let name ← need what r.name.text?
  let priority ← need what r.priority.integer?
  let enabled ← need what r.enabled.integer?
  let actionType ← need what r.actionType.text?
  let params ← readJson paramsText
  let confidence ← need what r.confidence.real?
  let rationale ← need what r.rationale.text?
  let created ← readInstant created
  let updated ← readInstant updated
  return ⟨r.id, ⟨name, priority, enabled != 0, condition, actionType, params, confidence, rationale⟩,
    created, updated⟩

end PolicyRow

namespace ProposalRow

def ofProposal (p : Proposal) : ProposalRow where
  id := .text p.id.text
  recordId := .text p.recordId
  summary := .text (Json.obj p.summary).render
  actionType := .text p.actionType
  params := .text p.params.render
  policyId := .ofInt? p.policyId
  confidence := .ofDouble p.confidence
  rationale := .text p.rationale
  status := .text p.status.name
  created := instantCell p.created
  decidedAt := .ofText? (p.decidedAt.map (·.sortableText))
  decidedBy := .ofText? p.decidedBy
  error := .ofText? p.error
  retryOf := .ofText? (p.retryOf.map (·.text))

def what : String := "proposal row"

/-- A summary; what is no object is empty. -/
def summaryOf : Json → Json.Object
  | .obj members => members
  | _ => []

/-- The proposal that stands in a row. -/
def read (r : ProposalRow) : Except Error Proposal := do
  let idText ← need what r.id.text?
  let summaryText ← need what r.summary.text?
  let summary ← readJson summaryText
  let paramsText ← need what r.params.text?
  let statusText ← need what r.status.text?
  let createdText ← need what r.created.text?
  let decidedAt ← readOptional readInstant r.decidedAt
  let retryOf ← readOptional readUuid r.retryOf
  let id ← readUuid idText
  let recordId ← need what r.recordId.text?
  let actionType ← need what r.actionType.text?
  let params ← readJson paramsText
  let confidence ← need what r.confidence.real?
  let rationale ← need what r.rationale.text?
  let status ← readStatus statusText
  let created ← readInstant createdText
  return { id, recordId, summary := summaryOf summary, actionType, params
           policyId := r.policyId.integer?, confidence, rationale, status, created, decidedAt
           decidedBy := r.decidedBy.text?, error := r.error.text?, retryOf }

end ProposalRow

namespace EntryRow

def ofEntry (e : Audit.Entry) : EntryRow where
  id := .text e.id.text
  proposalId := .ofText? (e.proposalId.map (·.text))
  actionType := .text e.actionType
  actor := .text e.actor.toJson.render
  policyId := .ofInt? e.policyId
  confidence := .ofDouble e.confidence
  rationale := .text e.rationale
  outcome := .text e.outcome.name
  payload := .text e.payload.render
  evidence := .ofText? e.evidence
  created := instantCell e.created

def what : String := "audit row"

def readActor (s : String) : Except Error Actor :=
  (Actor.decoder.ofText s).mapError fun _ => .badActor

/-- The entry that stands in a row. -/
def read (r : EntryRow) : Except Error Audit.Entry := do
  let idText ← need what r.id.text?
  let proposalId ← readOptional readUuid r.proposalId
  let actorText ← need what r.actor.text?
  let actor ← readActor actorText
  let outcomeText ← need what r.outcome.text?
  let payloadText ← need what r.payload.text?
  let createdText ← need what r.created.text?
  let id ← readUuid idText
  let actionType ← need what r.actionType.text?
  let confidence ← need what r.confidence.real?
  let rationale ← need what r.rationale.text?
  let outcome ← readStatus outcomeText
  let payload ← readJson payloadText
  let created ← readInstant createdText
  return { id, proposalId, actionType, actor, policyId := r.policyId.integer?, confidence, rationale
           outcome, payload, evidence := r.evidence.text?, created }

end EntryRow
end Signoff.Store
