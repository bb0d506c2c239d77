import Signoff.Desk.Review

/-!
What reviewers and the desk say to each other over a feed: reviewers send decisions, and get all
announcements and the refusals of what they sent themselves.
-/

namespace Signoff.Feed

/-- A decision that a reviewer sends. -/
inductive Message where
  | approve (id : Uuid) (reviewer : Option String)
  | reject (id : Uuid) (reviewer reason : Option String)

namespace Message

open Json.Decoder in
def decoder : Json.Decoder Message :=
  tagged "action" fun
    | "approve" => some <| .fields <|
      approve <$> field ["proposal_id"] Uuid.decoder <*> optionalField "decided_by" string
    | "reject" => some <| .fields <|
      reject <$> field ["proposal_id"] Uuid.decoder <*> optionalField "decided_by" string
        <*> optionalField "reason" string
    | _ => none

/-- The message that a text is. -/
def ofText? (text : String) : Option Message := (decoder.ofText text).toOption

/-- The proposal that is decided. -/
def proposal : Message → Uuid
  | .approve id _ => id
  | .reject id _ _ => id

/-- The decision that is made. -/
def review : Message → Review
  | .approve id reviewer => .approve id reviewer
  | .reject id reviewer reason => .reject id reviewer reason

end Message

/-- What a reviewer gets. -/
inductive Frame where
  | event (e : Proposal.Event)
  /-- Something that the reviewer sent was refused; a decision is named by its proposal. -/
  | refusal (id : Option Uuid) (message : String)

namespace Frame

/-- The refusal of a text that is no message. -/
def unrecognized : Frame := .refusal none "unrecognized message"

/-- The refusal of a decision. -/
def refused (id : Uuid) (e : Review.Error) : Frame := .refusal (some id) e.message

def toJson : Frame → Json
  | .event e => e.toJson
  | .refusal id message =>
    .ofMembers (("type", .str "error") :: ("error", .str message)
      :: id.toList.map fun id => ("proposal_id", id.toJson))

end Frame
end Signoff.Feed
