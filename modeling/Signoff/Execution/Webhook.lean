import Signoff.Execution.HttpStatus
import Signoff.Execution.Registry

/-!
Handlers behind a web address: the action is posted there, and the answer says how it went.
-/

namespace Signoff.Webhook

/-- What comes back from the address. -/
structure Reply where
  status : Nat
  body : String

/-- What is posted. -/
def request (actionType : String) (params : Json) (record : Snapshot) : Json :=
  .ofMembers [("action_type", .str actionType), ("params", params), ("record", record.toJson)]

/-- The member of an answer, if the answer is an object that has it. -/
def member? (answer : Option Json) (name : String) : Option Json :=
  match answer with
  | some (.obj members) => Json.Object.get? members name
  | _ => none

/-- The error that an answer tells of. -/
def reportedError? (answer : Option Json) : Option String :=
  match member? answer "error" with
  | some (.str e) => some e
  | _ => none

/-- Whether an answer says that the action was not carried out. -/
def declines (answer : Option Json) : Bool :=
  match member? answer "success" with
  | some (.bool false) => true
  | _ => false

/-- The outcome that an answer of the address means; none came when it cannot be reached, or when
it only said that one would come. -/
def outcome (reply : Option Reply) : Outcome :=
  match reply.filter (!HttpStatus.isInterim ·.status) with
  | none => .failure "webhook request failed"
  | some reply =>
    let answer := if HttpStatus.isBodiless reply.status then none else Json.parse? reply.body
    if !HttpStatus.isSuccess reply.status then
      ⟨false, some ((reportedError? answer).getD ("HTTP " ++ HttpStatus.text reply.status)), answer⟩
    else if declines answer then
      ⟨false, some ((reportedError? answer).getD "handler reported failure"), answer⟩
    else ⟨true, none, answer⟩

/-- The handler behind an address that answers as told, after some time. -/
def handler (actionType : String) (address : Json → Span × Option Reply) : Handler :=
  fun params record =>
    let (takes, reply) := address (request actionType params record)
    ⟨takes, .finished (outcome reply)⟩

end Signoff.Webhook
