import Signoff.Desk.Basic
import Signoff.Policy.Draft
import Signoff.Preview

/-!
Keeping policies: every draft is checked before it is written, and a policy is checked again before
it is switched on. Dry runs read policies and change nothing.
-/

namespace Signoff

namespace Authoring

/-- Why a call about policies was refused. -/
inductive Error where
  | flawed (f : Policy.Draft.Flaw)
  | notFound (id : Int)
  | store (e : Store.Error)

def Error.message : Error → String
  | .flawed f => f.message
  | .notFound id => "Policy " ++ toString id ++ " not found"
  | .store e => "Database error: " ++ e.message

/-- What a call comes to. -/
abbrev Result := Except Error Policy

end Authoring

/-- A change of a policy under way: what is to be done next. -/
inductive Authoring where
  | create (draft : Policy.Draft)
  /-- Write another body. -/
  | update (id : Int) (draft : Policy.Draft)
  | setEnabled (id : Int) (enabled : Bool)
  /-- Write the switch, all checks passed. -/
  | switch (id : Int) (enabled : Bool)
  /-- Look how the policy reads after the change. -/
  | reread (id : Int)
  | delete (id : Int)
  /-- The policy is gone. -/
  | deleted
  | done (r : Authoring.Result)

namespace Authoring

/-- What is found under a number. -/
def found (s : Store) (id : Int) : Except Error Policy :=
  match s.getPolicy id with
  | .error e => .error (.store e)
  | .ok none => .error (.notFound id)
  | .ok (some p) => .ok p

/-- Checks a stored policy before it is switched on; one that cannot be read has no condition. -/
def check (s : Store) (id : Int) : Except Error Unit :=
  match s.getPolicy id with
  | .error e =>
    match e.unreadable? with
    | some reason => .error (.flawed (.unreadable reason))
    | none => .error (.store e)
  | .ok none => .error (.notFound id)
  | .ok (some p) =>
    match (Policy.Draft.ofBody p.body).validate with
    | .error f => .error (.flawed f)
    | .ok _ => .ok ()

/-- What follows a change of a row. -/
def afterWrite (id : Int) (r : Except Store.Error Bool) : Authoring :=
  match r with
  | .error e => .done (.error (.store e))
  | .ok false => .done (.error (.notFound id))
  | .ok true => .reread id

/-- One step of a change. -/
def step (m : Moment) (d : Desk) : Authoring → Authoring × Desk
  | .create draft =>
    match draft.validate with
    | .error f => (.done (.error (.flawed f)), d)
    | .ok body =>
      let (r, d) := d.on (·.insertPolicy body m.now)
      (.done (r.mapError .store), d)
  | .update id draft =>
    match draft.validate with
    | .error f => (.done (.error (.flawed f)), d)
    | .ok body =>
      let (r, d) := d.on (·.writeBody id body m.now)
      (afterWrite id r, d)
  | .setEnabled id enabled =>
    if enabled then
      match check d.store id with
      | .error e => (.done (.error e), d)
      | .ok _ => (.switch id enabled, d)
    else (.switch id enabled, d)
  | .switch id enabled =>
    let (r, d) := d.on (·.writeEnabled id enabled m.now)
    (afterWrite id r, d)
  | .reread id => (.done (found d.store id), d)
  | .delete id =>
    match d.on (·.deletePolicy id) with
    | (.error e, d) => (.done (.error (.store e)), d)
    | (.ok false, d) => (.done (.error (.notFound id)), d)
    | (.ok true, d) => (.deleted, d)
  | .deleted => (.deleted, d)
  | .done r => (.done r, d)

/-- How many steps are left at most. -/
def left : Authoring → Nat
  | .create _ => 1
  | .update _ _ => 2
  | .setEnabled _ _ => 3
  | .switch _ _ => 2
  | .reread _ => 1
  | .delete _ => 1
  | .deleted => 0
  | .done _ => 0

/-- Policies in order. -/
def list (s : Store) (enabledOnly : Bool) : Except Error (List Policy) :=
  (s.listPolicies enabledOnly).mapError .store

/-- A dry run. -/
def dryRun (s : Store) (floor : Double) (request : DryRun) (present : Instant) :
    Except Error DryRun.Report := do
  let now := request.now.getD present
  let saved ← if request.usesSaved then (s.listPolicies true).mapError .store else .ok []
  let policies ← (request.policies saved now).mapError .flawed
  return .ofDecisions now (Decision.decideAll floor request.records policies now)

end Authoring
end Signoff
