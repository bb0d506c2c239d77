import Signoff.Store.Basic

/-!
The table of policies. Changes are made in one statement and read back in another, so a change is
there even when what was changed cannot be read.
-/

namespace Signoff.Store

/-- The greatest number that a policy can have: signed, of 64 bits. -/
def maxPolicyId : Int := 0x7fffffffffffffff

/-- The number before the next one: no number is given twice, also after its policy is gone. -/
def highestPolicy (s : Store) : Int := (s.policies.map (·.id)).foldl max s.lastPolicy

/-- Adds a policy under a new number. -/
def insertPolicy (s : Store) (b : Policy.Body) (now : Instant) : Reply Policy :=
  match s.requires .policies "insert_policy" with
  | .error e => (.error e, s)
  | .ok _ =>
    if maxPolicyId ≤ s.highestPolicy then (.error (.query "insert_policy"), s)
    else
      let id := s.highestPolicy + 1
      let s := { s with policies := s.policies ++ [.ofBody id b now], lastPolicy := id }
      ((readInstant now.sortableText).map fun stamp => ⟨id, b, stamp, stamp⟩, s)

/-- Changes the row of a policy; says whether there is one. -/
def changePolicy (s : Store) (call : String) (id : Int) (f : PolicyRow → PolicyRow) : Reply Bool :=
  match s.requires .policies call with
  | .error e => (.error e, s)
  | .ok _ =>
    (.ok (s.policies.any (·.id == id)),
      { s with policies := s.policies.map fun r => if r.id = id then f r else r })

/-- Puts another body into the row of a policy. -/
def writeBody (s : Store) (id : Int) (b : Policy.Body) (now : Instant) : Reply Bool :=
  s.changePolicy "update_policy" id (·.update b now)

/-- Switches the row of a policy on or off. -/
def writeEnabled (s : Store) (id : Int) (enabled : Bool) (now : Instant) : Reply Bool :=
  s.changePolicy "set_policy_enabled" id fun r =>
    { r with enabled := .ofBool enabled, updated := instantCell now }

/-- The policy under a number, if there is one. -/
def getPolicy (s : Store) (id : Int) : Except Error (Option Policy) := do
  s.requires .policies "get_policy"
  match s.policies.find? (·.id == id) with
  | some r => r.read.map some
  | none => return none

/-- What a change answers: the policy as it reads after it. -/
def readBack (r : Reply Bool) (id : Int) : Reply (Option Policy) :=
  match r with
  | (.error e, s) => (.error e, s)
  | (.ok false, s) => (.ok none, s)
  | (.ok true, s) => (s.getPolicy id, s)

def updatePolicy (s : Store) (id : Int) (b : Policy.Body) (now : Instant) :
    Reply (Option Policy) := readBack (s.writeBody id b now) id

def setPolicyEnabled (s : Store) (id : Int) (enabled : Bool) (now : Instant) :
    Reply (Option Policy) := readBack (s.writeEnabled id enabled now) id

/-- Removes a policy for good; says whether there was one. -/
def deletePolicy (s : Store) (id : Int) : Reply Bool :=
  match s.requires .policies "delete_policy" with
  | .error e => (.error e, s)
  | .ok _ =>
    (.ok (s.policies.any (·.id == id)),
      { s with policies := s.policies.filter (·.id != id) })

/-- Whether a row comes before another in lists. -/
def PolicyRow.before (r t : PolicyRow) : Bool :=
  match r.priority.compare t.priority with
  | .lt => true
  | .eq => r.id ≤ t.id
  | .gt => false

/-- Whether the switch of a row is on. -/
def PolicyRow.isOn (r : PolicyRow) : Bool := r.enabled.compare (.integer 1) == .eq

/-- The policies that can be read, in order: all of them, or those that are on. -/
def listPolicies (s : Store) (enabledOnly : Bool) : Except Error (List Policy) := do
  s.requires .policies "list_policies"
  let rows := if enabledOnly then s.policies.filter (·.isOn) else s.policies
  return (rows.mergeSort PolicyRow.before).filterMap fun r => r.read.toOption

end Signoff.Store
