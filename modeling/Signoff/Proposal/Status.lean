import Signoff.Json.Decode

/-!
The life of a proposal. It waits, until someone approves or rejects it; an approved one is carried
out, which succeeds or fails.
-/

namespace Signoff

/-- Where a proposal stands. -/
inductive Status where
  | pending
  | approved
  | executed
  | failed
  | rejected
  deriving DecidableEq, Repr

namespace Status

def all : List Status := [pending, approved, executed, failed, rejected]

def name : Status → String
  | .pending => "pending"
  | .approved => "approved"
  | .executed => "executed"
  | .failed => "failed"
  | .rejected => "rejected"

def ofName? (name : String) : Option Status := all.find? (·.name = name)

/-- Whether a proposal may go from one status to another. -/
def canBecome : Status → Status → Bool
  | .pending, .approved => true
  | .pending, .rejected => true
  | .approved, .executed => true
  | .approved, .failed => true
  | _, _ => false

/-- Where a proposal stays for good. -/
def isFinal : Status → Bool
  | .executed | .failed | .rejected => true
  | _ => false

theorem ofName?_name (s : Status) : ofName? s.name = some s := by
  cases s <;> decide

theorem name_of_ofName? {name : String} {s : Status} (h : ofName? name = some s) :
    s.name = name := by
  simpa using List.find?_some h

theorem canBecome_eq_false_of_isFinal {s t : Status} (h : s.isFinal = true) :
    s.canBecome t = false := by
  cases s <;> simp_all [isFinal, canBecome]

theorem not_canBecome_pending (s : Status) : s.canBecome .pending = false := by
  cases s <;> rfl

def toJson (s : Status) : Json := .str s.name

def decoder : Json.Decoder Status := Json.Decoder.choice ofName?

/-- The text about a name that is none of a status. -/
def unknownText (name : String) : String := "unknown action status '" ++ name ++ "'"

end Status
end Signoff
