import Signoff.Json.Decode
import Signoff.Text.Blank

/-!
Who decided.
-/

namespace Signoff

inductive Actor where
  | system
  | user (id : String)
  deriving DecidableEq, Repr

namespace Actor

/-- The name of a reviewer who gave none. -/
def anonymous : String := "anonymous"

/-- The reviewer of a decision; a blank name is none. -/
def ofReviewer (name : Option String) : Actor :=
  match name.map Text.trim with
  | some id => if id.isEmpty then .user anonymous else .user id
  | none => .user anonymous

/-- The text of an actor for people. -/
def text : Actor → String
  | .system => "system"
  | .user id => "user:" ++ id

def toJson : Actor → Json
  | .system => .ofMembers [("kind", .str "system")]
  | .user id => .ofMembers [("kind", .str "user"), ("id", .str id)]

open Json.Decoder in
def decoder : Json.Decoder Actor :=
  tagged "kind" fun
    | "system" => some (.bare .system)
    | "user" => some (.fields (user <$> field ["id"] string))
    | _ => none

end Actor
end Signoff
