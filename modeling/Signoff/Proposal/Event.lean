import Signoff.Proposal.Basic

/-!
What reviewers are told about proposals.
-/

namespace Signoff.Proposal

inductive Event where
  /-- All that is pending; sent to a reviewer who joins. -/
  | pendingSync (proposals : List Proposal)
  | proposed (proposal : Proposal)
  | statusChanged (id : Uuid) (status : Status) (error : Option String)

namespace Event

def toJson : Event → Json
  | .pendingSync proposals =>
    .ofMembers [("type", .str "pending_sync"), ("proposals", .arr (proposals.map (·.toJson)))]
  | .proposed proposal =>
    .ofMembers [("type", .str "proposed"), ("proposal", proposal.toJson)]
  | .statusChanged id status error =>
    .ofMembers ([("type", .str "status_changed"), ("id", id.toJson), ("status", status.toJson)]
      ++ error.toList.map fun e => ("error", .str e))

open Json.Decoder in
def decoder : Json.Decoder Event :=
  tagged "type" fun
    | "pending_sync" => some <| .fields <|
      pendingSync <$> field ["proposals"] (list Proposal.decoder)
    | "proposed" => some <| .fields <| proposed <$> field ["proposal"] Proposal.decoder
    | "status_changed" => some <| .fields <|
      statusChanged <$> field ["id"] Uuid.decoder <*> field ["status"] Status.decoder
        <*> field ["error"] (optional string) (.default none)
    | _ => none

end Event
end Signoff.Proposal
