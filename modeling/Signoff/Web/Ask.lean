import Signoff.Desk.Call
import Signoff.Text.Numeral
import Signoff.Web.Form
import Signoff.Web.MediaType
import Signoff.Web.Route

/-!
What a request asks for. It is read in full before anything is done, so that a request of the wrong
form never reaches the desk.
-/

namespace Signoff.Web

/-- A question that the store alone can answer. -/
inductive Question where
  | health
  | policies (enabledOnly : Bool)
  | policy (id : Int)
  | proposals (status : Option Status) (limit : Option Nat)
  | proposal (id : Uuid)
  | entries (filter : Audit.Filter)

/-- What is asked of the desk. -/
inductive Ask where
  | look (q : Question)
  /-- A call is to be made; it is said whether something new comes of it. -/
  | make (c : Call) (isNew : Bool)

namespace Ask

/-- How many bytes a body may have. -/
def maxBody : Nat := 2 * 1024 * 1024

/-- A value, or the refusal with a status. -/
def orRefuse {α : Type} (status : Nat) : Option α → Except Response α
  | some a => .ok a
  | none => .error (.refuse status)

/-- Reads the body as a document that says to be JSON. -/
def document {α : Type} (d : Json.Decoder α) (r : Request) : Except Response α :=
  if !((r.contentType.bind MediaType.ofText?).any MediaType.isJson) then .error (.refuse 415)
  else if maxBody < r.body.utf8ByteSize then .error (.refuse 413)
  else
    match d.ofText r.body with
    | .ok a => .ok a
    | .error .malformed => .error (.refuse 400)
    | .error .mismatch => .error (.refuse 422)

/-- Reads a number in the path. -/
def number (part : String) : Except Response Int :=
  orRefuse 400 ((Percent.text? part).bind fun s => (Numeral.integer s).toOption)

/-- Reads an identifier in the path. -/
def uuid (part : String) : Except Response Uuid := do
  match Uuid.ofText? (← orRefuse 400 (Percent.text? part)) with
  | some id => .ok id
  | none => .error (.error 400 "Invalid proposal ID")

/-- The blanks of which a body may consist. -/
def isBlank (c : Char) : Bool :=
  c == ' ' || c == '\t' || c == '\n' || c == '\x0c' || c == '\r'

/-- What a body says about a decision: the reviewer and the reason. -/
structure Remark where
  reviewer : Option String
  reason : Option String

open Json.Decoder in
def Remark.decoder : Json.Decoder Remark :=
  record (Remark.mk <$> optionalField "decided_by" string <*> optionalField "reason" string)

/-- Reads what a body says about a decision; a blank one says nothing. -/
def remark (r : Request) : Except Response Remark :=
  if r.body.toList.all isBlank then .ok ⟨none, none⟩
  else
    match Remark.decoder.ofText r.body with
    | .ok remark => .ok remark
    | .error _ => .error (.error 400 "Invalid body")

/-- Reads a decision on a proposal in the path. -/
def decision (part : String) (r : Request) : Except Response (Uuid × Remark) := do
  discard (orRefuse 400 (Percent.text? part))
  if maxBody < r.body.utf8ByteSize then throw (.refuse 413)
  return (← uuid part, ← remark r)

def bool? : String → Option Bool
  | "true" => some true
  | "false" => some false
  | _ => none

def natural? (text : String) : Option Nat := (Numeral.natural 0xffffffffffffffff text).toOption

/-- Reads the query of a list of policies. -/
def policiesQuery? (f : Form) : Option Question := do
  let enabledOnly ← f.field? "enabled_only" bool?
  return .policies (enabledOnly.getD false)

/-- Reads the query of a page of proposals. -/
def proposalsQuery? (f : Form) : Option Question := do
  let status ← f.field? "status" Status.ofName?
  let limit ← f.field? "limit" natural?
  return .proposals status limit

/-- Reads the query of entries of the ledger. -/
def entriesQuery? (f : Form) : Option Question := do
  let actionType ← f.field? "action_type" some
  let status ← f.field? "status" Status.ofName?
  let since ← f.field? "from" Instant.ofJsonText?
  let till ← f.field? "to" Instant.ofJsonText?
  let limit ← f.field? "limit" natural?
  return .entries ⟨actionType, status, since, till, limit⟩

open Json.Decoder in
/-- The records of a batch. -/
def batchDecoder : Json.Decoder (List Record) :=
  record (id <$> field ["records"] (list Record.decoder))

/-- Has policies kept. -/
def authoring (a : Authoring) (isNew : Bool := false) : Ask := .make (.authoring a) isNew

/-- Has a proposal decided. -/
def review (r : Review) (isNew : Bool := false) : Ask := .make (.review r) isNew

/-- Reads what is asked for at a route by a method that it has. -/
def ofRoute (r : Request) : Route → Except Response Ask
  | .health => .ok (.look .health)
  | .feed => .error (.refuse (if r.method = .get then 400 else 405))
  | .policies =>
    if r.method = .post then
      (document Policy.Draft.decoder r).map fun draft => authoring (.create draft) true
    else (orRefuse 400 (policiesQuery? (.ofText r.query))).map .look
  | .policy part => do
    let id ← number part
    if r.method = .put then
      (document Policy.Draft.decoder r).map fun draft => authoring (.update id draft)
    else if r.method = .delete then return authoring (.delete id)
    else return .look (.policy id)
  | .switch part enabled => (number part).map fun id => authoring (.setEnabled id enabled)
  | .records => (document batchDecoder r).map fun records => .make (.intake (.batch records)) false
  | .proposals => (orRefuse 400 (proposalsQuery? (.ofText r.query))).map .look
  | .proposal part => (uuid part).map fun id => .look (.proposal id)
  | .approval part => (decision part r).map fun (id, said) => review (.approve id said.reviewer)
  | .rejection part =>
    (decision part r).map fun (id, said) => review (.reject id said.reviewer said.reason)
  | .renewal part => (uuid part).map fun id => review (.retry id) true
  | .ledger => (orRefuse 400 (entriesQuery? (.ofText r.query))).map .look
  | .dryRun => (document DryRun.decoder r).map fun request => .make (.dryRun request) false

/-- Whether a method is one of those; where things can be looked at, one can also ask whether they
could be. -/
def allows (methods : List Method) (m : Method) : Bool :=
  methods.contains m || (m == .head && methods.contains .get)

/-- Reads a request. -/
def ofRequest (r : Request) : Except Response Ask :=
  match Route.ofPath? r.path with
  | none => .error (.refuse 404)
  | some route =>
    if allows route.methods r.method then ofRoute r route else .error (.refuse 405)

end Ask
end Signoff.Web
