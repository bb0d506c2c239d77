import Signoff.Web.Message

/-!
What there is at which path, and what can be done there. The names of a path are compared as they
are written, and an identifier in it may be any name but an empty one.
-/

namespace Signoff.Web

/-- What there is at a path. -/
inductive Route where
  | health
  | feed
  | policies
  | policy (id : String)
  | switch (id : String) (enabled : Bool)
  | records
  | proposals
  | proposal (id : String)
  | approval (id : String)
  | rejection (id : String)
  | renewal (id : String)
  | ledger
  | dryRun
  deriving DecidableEq, Repr

namespace Route

/-- What there is for one thing, and for what can be done to it. -/
def under (kind id : String) : List String → Option Route
  | [] =>
    match kind with
    | "policies" => some (.policy id)
    | "proposals" => some (.proposal id)
    | _ => none
  | [action] =>
    match kind, action with
    | "policies", "enable" => some (.switch id true)
    | "policies", "disable" => some (.switch id false)
    | "proposals", "approve" => some (.approval id)
    | "proposals", "reject" => some (.rejection id)
    | "proposals", "retry" => some (.renewal id)
    | _, _ => none
  | _ => none

def ofPath? : List String → Option Route
  | ["health"] => some .health
  | ["ws"] => some .feed
  | ["api", "policies"] => some .policies
  | ["api", "records"] => some .records
  | ["api", "proposals"] => some .proposals
  | ["api", "audit"] => some .ledger
  | ["api", "simulate"] => some .dryRun
  | "api" :: kind :: id :: rest => if id.isEmpty then none else under kind id rest
  | _ => none

/-- What can be done there. -/
def methods : Route → List Method
  | .health | .feed | .proposals | .proposal _ | .ledger => [.get]
  | .policies => [.get, .post]
  | .policy _ => [.get, .put, .delete]
  | .switch _ _ | .records | .approval _ | .rejection _ | .renewal _ | .dryRun => [.post]

end Route
end Signoff.Web
