import Signoff.Condition.Evaluation
import Signoff.Policy.Order
import Signoff.Rationale

/-!
Decisions: which policy speaks for a record. Policies are tried in order; those that are less sure
than the floor are passed over, and the first of the others that matches is the one.
-/

namespace Signoff

/-- The least confidence asked for: a number, or more or less than every number. -/
inductive Floor where
  | negInfinity
  | finite (x : Double)
  | infinity
  deriving DecidableEq, Repr

instance : Coe Double Floor := ⟨.finite⟩

/-- Whether a confidence is less than what is asked for. -/
def Floor.exceeds (floor : Floor) (x : Double) : Bool :=
  match floor with
  | .negInfinity => false
  | .finite y => x.lt y
  | .infinity => true

/-- What is proposed for a record, by whom and why. -/
structure Match where
  record : Snapshot
  policyId : Int
  policyName : String
  actionType : String
  params : Json
  confidence : Double
  rationale : String

/-- The outcome for one record, with the anomalies met on the way. -/
structure Decision where
  recordId : String
  found : Option Match
  trace : Trace

namespace Match

def toJson (m : Match) : Json :=
  .ofMembers [("record", m.record.toJson), ("policy_id", .int m.policyId),
    ("policy_name", .str m.policyName), ("action_type", .str m.actionType), ("params", m.params),
    ("confidence", .real m.confidence), ("rationale", .str m.rationale)]

open Json.Decoder in
def decoder : Json.Decoder Match :=
  Json.Decoder.record <| Match.mk
    <$> field ["record"] Snapshot.decoder
    <*> field ["policy_id"] int64
    <*> field ["policy_name"] string
    <*> field ["action_type"] string
    <*> field ["params"] value
    <*> field ["confidence"] double
    <*> field ["rationale"] string

/-- What a policy proposes for a record that it matches. -/
def ofPolicy (recordId : String) (ctx : Context) (p : Policy) : Match where
  record := .ofContext recordId ctx
  policyId := p.id
  policyName := p.body.name
  actionType := p.body.actionType
  params := p.body.params
  confidence := p.body.confidence
  rationale := Rationale.ofPolicy ctx p.body.name p.body.priority p.body.rationale

end Match

namespace Decision

/-- The least confidence asked for when nothing else is said. -/
def defaultFloor : Double := .half

/-- Tries policies one after the other. -/
def scan (floor : Floor) (ctx : Context) : List Policy → Trace → Option Policy × Trace
  | [], t => (none, t)
  | p :: rest, t =>
    if floor.exceeds p.body.confidence then scan floor ctx rest t
    else
      match p.body.condition.evaluateTraced ctx t with
      | (true, t) => (some p, t)
      | (false, t) => scan floor ctx rest t

/-- Decides on one record; the policies are in order already. -/
def decide (floor : Floor) (recordId : String) (ctx : Context) (ordered : List Policy) :
    Decision :=
  let (found, trace) := scan floor ctx ordered .zero
  ⟨recordId, found.map (Match.ofPolicy recordId ctx), trace⟩

/-- Decides on every record of a batch as of one instant. -/
def decideAll (floor : Floor) (records : List Record) (policies : List Policy) (now : Instant) :
    List Decision :=
  let ordered := Policy.inForce policies
  records.map fun r => decide floor r.id (.ofRecord r now) ordered

end Decision
end Signoff
