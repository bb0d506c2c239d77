import Signoff.Decision
import Signoff.Policy.Draft

/-!
Dry runs: what would be proposed for records, by the policies in force, by one that is only tried
out, or by both. Nothing is kept and nothing is done.
-/

namespace Signoff

/-- What would be proposed for a record. -/
structure Preview where
  recordId : String
  matched : Bool
  policyId : Option Int
  policyName : Option String
  actionType : Option String
  params : Option Json
  confidence : Option Double
  rationale : Option String

namespace Preview

def ofDecision (d : Decision) : Preview where
  recordId := d.recordId
  matched := d.found.isSome
  policyId := d.found.map (·.policyId)
  policyName := d.found.map (·.policyName)
  actionType := d.found.map (·.actionType)
  params := d.found.map (·.params)
  confidence := d.found.map (·.confidence)
  rationale := d.found.map (·.rationale)

/-- A member that is left out when there is nothing to say. -/
def said {α : Type} (name : String) (f : α → Json) (a : Option α) : List (String × Json) :=
  a.toList.map fun a => (name, f a)

def toJson (p : Preview) : Json :=
  .ofMembers (("record_id", .str p.recordId) :: ("matched", .bool p.matched)
    :: (said "policy_id" .int p.policyId ++ said "policy_name" .str p.policyName
      ++ said "action_type" .str p.actionType ++ said "params" id p.params
      ++ said "confidence" .real p.confidence ++ said "rationale" .str p.rationale))

open Json.Decoder in
def decoder : Json.Decoder Preview :=
  record <| Preview.mk
    <$> field ["record_id"] string
    <*> field ["matched"] bool
    <*> optionalField "policy_id" int64
    <*> optionalField "policy_name" string
    <*> optionalField "action_type" string
    <*> optionalField "params" value
    <*> optionalField "confidence" double
    <*> optionalField "rationale" string

/-- Previews of a batch, in the order of the records. -/
def all (floor : Double) (records : List Record) (policies : List Policy) (now : Instant) :
    List Preview :=
  (Decision.decideAll floor records policies now).map ofDecision

end Preview

/-- What is asked of a dry run. -/
structure DryRun where
  records : List Record
  /-- A policy to try out. -/
  candidate : Option Policy.Draft
  /-- Whether the policies in force take part beside the candidate. -/
  includeSaved : Bool
  /-- The instant to decide at; the present when none is given. -/
  now : Option Instant

namespace DryRun

open Json.Decoder in
def decoder : Json.Decoder DryRun :=
  record <| DryRun.mk
    <$> field ["records"] (list Record.decoder) (.default [])
    <*> field ["candidate"] (optional Policy.Draft.decoder) (.default none)
    <*> field ["include_saved"] bool (.default false)
    <*> field ["now"] (optional Instant.decoder) (.default none)

/-- Whether the policies in force take part. -/
def usesSaved (r : DryRun) : Bool := r.candidate.isNone || r.includeSaved

/-- What a dry run found. -/
structure Report where
  evaluatedAt : Instant
  previews : List Preview
  matched : Nat
  anomalies : Nat

def Report.toJson (r : Report) : Json :=
  .ofMembers [("evaluated_at", r.evaluatedAt.toJson), ("previews", .arr (r.previews.map (·.toJson))),
    ("matched", .int r.matched), ("anomalies", .int r.anomalies)]

/-- The report on decisions made at an instant. -/
def Report.ofDecisions (now : Instant) (decisions : List Decision) : Report where
  evaluatedAt := now
  previews := decisions.map .ofDecision
  matched := decisions.countP (·.found.isSome)
  anomalies := (decisions.map (·.trace.anomalies)).foldr (· + ·) 0

/-- The policies of a dry run, given those in force. -/
def policies (r : DryRun) (saved : List Policy) (now : Instant) :
    Except Policy.Draft.Flaw (List Policy) :=
  let saved := if r.usesSaved then saved else []
  match r.candidate with
  | none => .ok saved
  | some draft => draft.validate.map fun body => saved ++ [.candidate body now]

end DryRun
end Signoff
