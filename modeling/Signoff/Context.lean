import Signoff.FieldPath
import Signoff.Instant.Printer
import Signoff.Record

/-!
What conditions and templates see of a record: its attributes, its identifier, the domain of its
sender, and the instant of the batch.
-/

namespace Signoff

/-- Named values and the text of the instant that stands for now. -/
structure Context where
  values : Json.Object
  stamp : String

namespace Context

/-- The name of the instant, and the operand that means it. -/
def nowName : String := "now"

/-- Named values as they are, with the instant put in. -/
def ofValues (values : Json.Object) (now : Instant) : Context :=
  ⟨Json.Object.insert values nowName (.str now.text), now.text⟩

/-- The domain to add to the attributes, when they name a sender but no domain. -/
def derivedDomain? (values : Json.Object) : Option String :=
  if Json.Object.contains values "sender_domain" then none
  else
    match Json.Object.get? values "sender" with
    | some (.str sender) => Record.senderDomain? sender
    | _ => none

/-- What is seen of a record at an instant. -/
def ofRecord (record : Record) (now : Instant) : Context :=
  let values := Json.Object.insert record.attributes "record_id" (.str record.id)
  let values := match derivedDomain? values with
    | some domain => Json.Object.insert values "sender_domain" (.str domain)
    | none => values
  ofValues values now

/-- The place in a list that a name means: decimal digits, with a plus sign or without. -/
def index? (name : String) : Option Nat :=
  let digits := match name.toList with
    | '+' :: rest => rest
    | cs => cs
  if digits.isEmpty || !digits.all Char.isDigit then none
  else
    let n := digits.foldl (fun n c => n * 10 + (c.toNat - '0'.toNat)) 0
    if n ≤ 0xffffffffffffffff then some n else none

/-- One step into a value: a member of an object or an item of a list. -/
def child? (name : String) : Json → Option Json
  | .obj members => Json.Object.get? members name
  | .arr items => (index? name).bind (items[·]?)
  | _ => none

/-- The value that names lead to. -/
def follow? : List String → Json → Option Json
  | [], v => some v
  | name :: names, v => (child? name v).bind (follow? names)

/-- The value at a path; none when some name on it is missing. -/
def resolve? (ctx : Context) (path : FieldPath) : Option Json :=
  follow? path.segments (.obj ctx.values)

/-- The value at a path given as text. -/
def lookup? (ctx : Context) (path : String) : Option Json :=
  (FieldPath.ofText? path).bind ctx.resolve?

/-- The operand that is compared with: the text `now` means the instant. -/
def operand (ctx : Context) (v : Json) : Json :=
  match v with
  | .str s => if s = nowName then .str ctx.stamp else v
  | v => v

end Context

/-- A record as proposals keep it: its identifier and the attributes that reviewers look at. -/
structure Snapshot where
  recordId : String
  summary : Json.Object

namespace Snapshot

/-- The names that a summary keeps. -/
def summaryFields : List String :=
  ["sender", "sender_domain", "subject", "category", "risk_score", "received_at"]

/-- What a proposal keeps of a record. -/
def ofContext (recordId : String) (ctx : Context) : Snapshot :=
  ⟨recordId, Json.Object.ofList (summaryFields.filterMap fun name =>
    (ctx.lookup? name).map fun v => (name, v))⟩

def toJson (s : Snapshot) : Json :=
  .ofMembers [("record_id", .str s.recordId), ("summary", .obj s.summary)]

open Json.Decoder in
def decoder : Json.Decoder Snapshot :=
  record (Snapshot.mk <$> field ["record_id"] string <*> field ["summary"] object (.default []))

end Snapshot
end Signoff
