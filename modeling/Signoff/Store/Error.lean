import Signoff.Condition.Error
import Signoff.Proposal.Status

/-!
What can go wrong with the store.
-/

namespace Signoff.Store

inductive Error where
  /-- The directory of the file cannot be made. -/
  | noDirectory
  | noConnection
  /-- A statement failed, or a row holds what it should not. -/
  | query (what : String)
  /-- A change of status that is not in the life of a proposal. -/
  | notAllowed (source target : Status)
  | migration (what : String)
  | badJson
  | badActor
  | badTimestamp (text : String)
  | badUuid (text : String)
  | badCondition (policy : Int) (e : Condition.Error)
  | badStatus (name : String)
  deriving DecidableEq, Repr

namespace Error

/-- Why stored text means nothing, when that is the matter. -/
def unreadable? : Error → Option String
  | .badJson => some "bad json"
  | .badActor => some "bad actor"
  | .badTimestamp text => some ("bad timestamp '" ++ text ++ "'")
  | .badUuid text => some ("bad uuid '" ++ text ++ "'")
  | .badCondition policy e =>
    some ("policy " ++ toString policy ++ " has an invalid condition: " ++ e.message)
  | .badStatus name => some (Status.unknownText name)
  | _ => none

def message : Error → String
  | .noDirectory => "Connection pool error: Failed to create database directory"
  | .noConnection => "Connection pool error: Failed to create connection"
  | .query what => "Query failed: " ++ what
  | .notAllowed source target =>
    "Query failed: transition_proposal: " ++ source.name ++ " -> " ++ target.name
      ++ " is not a valid transition"
  | .migration what => "Migration failed: " ++ what
  | e => "Serialization error: " ++ e.unreadable?.getD ""

end Error
end Signoff.Store
