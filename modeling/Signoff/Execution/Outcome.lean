import Signoff.Json.Decode

/-!
What came of carrying out an action.
-/

namespace Signoff

/-- How an action went, and what its handler answered. -/
structure Outcome where
  success : Bool
  error : Option String
  response : Option Json

namespace Outcome

def done : Outcome := ⟨true, none, none⟩

def doneWith (response : Json) : Outcome := ⟨true, none, some response⟩

def failure (error : String) : Outcome := ⟨false, some error, none⟩

def toJson (o : Outcome) : Json :=
  .ofMembers [("success", .bool o.success), ("error", .ofText? o.error),
    ("response", o.response.getD .null)]

open Json.Decoder in
def decoder : Json.Decoder Outcome :=
  record <| Outcome.mk
    <$> field ["success"] bool
    <*> optionalField "error" string
    <*> optionalField "response" value

end Outcome
end Signoff
