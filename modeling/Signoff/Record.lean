import Signoff.Json.Decode
import Signoff.Text.Blank
import Signoff.Text.Lowercase
import Signoff.Text.Split

/-!
Records that come in for decision, with the attributes that were found for them before.
-/

namespace Signoff

/-- A record: its identifier elsewhere and its attributes. -/
structure Record where
  id : String
  attributes : Json.Object

namespace Record

/-- A record with attributes that may turn out to be no object; then it has none. -/
def ofParts (id : String) (attributes : Json) : Record :=
  match attributes with
  | .obj members => ⟨id, members⟩
  | _ => ⟨id, []⟩

def toJson (r : Record) : Json :=
  .ofMembers [("id", .str r.id), ("attributes", .obj r.attributes)]

open Json.Decoder in
/-- The JSON form of a record. -/
def decoder : Json.Decoder Record :=
  record (Record.mk <$> field ["id"] string <*> field ["attributes"] object (.default []))

/-- The address in a sender: what stands between the last angle brackets, or else all of it. -/
def address (sender : List Char) : List Char :=
  match Text.lastIndexOf? '<' sender, Text.lastIndexOf? '>' sender with
  | some first, some last =>
    if first < last then (sender.take last).drop (first + 1) else sender
  | _, _ => sender

/-- The domain of a sender, in small letters: what stands after the last at sign of the address. -/
def senderDomain? (sender : String) : Option String :=
  match Text.afterLast? '@' (Text.trimChars (address sender.toList)) with
  | none => none
  | some after =>
    let domain := Text.trimChars after
    if domain.isEmpty then none else some (Text.lowercase (String.ofList domain))

end Record
end Signoff
