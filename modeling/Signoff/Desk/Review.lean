import Signoff.Desk.Basic

/-!
Decisions of reviewers: approving a proposal, which has its action carried out, rejecting one, and
trying a failed one again. Who comes first decides; the others are told where the proposal stands.
-/

namespace Signoff

namespace Review

/-- Why a decision was refused. -/
inductive Error where
  | notFound (id : Uuid)
  /-- The proposal stands where this decision cannot be made. -/
  | conflict (id : Uuid) (status target : Status)
  /-- Another proposal about the record, by the same policy, is pending. -/
  | duplicate (recordId : String)
  | store (e : Store.Error)
  deriving DecidableEq

def Error.message : Error → String
  | .notFound id => "Proposed action " ++ id.text ++ " not found"
  | .conflict id status target =>
    "Proposed action " ++ id.text ++ " is " ++ status.name ++ ", cannot transition to "
      ++ target.name
  | .duplicate recordId =>
    "Record " ++ recordId ++ " already has a pending proposal from this policy"
  | .store e => "Database error: " ++ e.message

/-- What a decision comes to. -/
abbrev Result := Except Error Proposal

end Review

/-- A decision under way: what is to be done next. -/
inductive Review where
  /-- Claim a pending proposal. -/
  | approve (id : Uuid) (reviewer : Option String)
  /-- Tell that the proposal was approved. -/
  | tellApproved (p : Proposal) (reviewer : Option String)
  /-- Hand the action to its handler. -/
  | carryOut (p : Proposal) (reviewer : Option String)
  /-- Write down how the action went. -/
  | settle (p : Proposal) (reviewer : Option String) (o : Outcome)
  /-- Tell how the action went. -/
  | tellSettled (p : Proposal) (o : Outcome)
  /-- Look whether a proposal can be rejected. -/
  | reject (id : Uuid) (reviewer reason : Option String)
  /-- Write down the rejection. -/
  | dismiss (p : Proposal) (reviewer reason : Option String)
  | tellRejected (id : Uuid)
  /-- Look how the proposal reads after the decision. -/
  | reread (id : Uuid)
  /-- Look whether a proposal can be tried again. -/
  | retry (id : Uuid)
  /-- Add the new proposal. -/
  | renew (p : Proposal)
  | tellRenewed (p : Proposal)
  /-- Look where the proposal stands that could not come to `target`. -/
  | refuse (id : Uuid) (target : Status)
  | done (r : Review.Result)

namespace Review

/-- How many proposals a page has when nothing else is said. -/
def defaultPage : Nat := 100

def maxPage : Nat := 1000

/-- The status that an outcome brings. -/
def statusOf (o : Outcome) : Status := if o.success then .executed else .failed

/-- What is found under an identifier. -/
def found (s : Store) (id : Uuid) : Except Error Proposal :=
  match s.getProposal id with
  | .error e => .error (.store e)
  | .ok none => .error (.notFound id)
  | .ok (some p) => .ok p

/-- Why a proposal did not come to `target`. -/
def refusal (s : Store) (id : Uuid) (target : Status) : Error :=
  match found s id with
  | .error e => e
  | .ok p => .conflict id p.status target

/-- The claim of a pending proposal. -/
def claim (id : Uuid) (reviewer : Option String) (now : Instant) : Store.Transition :=
  ⟨id, .pending, .approved, reviewer, some now, none⟩

/-- The end of an approved proposal. -/
def ending (id : Uuid) (o : Outcome) : Store.Transition :=
  ⟨id, .approved, statusOf o, none, none, o.error⟩

/-- The rejection of a pending proposal. -/
def rejection (id : Uuid) (reviewer : Option String) (now : Instant) : Store.Transition :=
  ⟨id, .pending, .rejected, reviewer, some now, none⟩

/-- One step of a decision. -/
def step (reg : Registry) (m : Moment) (d : Desk) : Review → Review × Desk
  | .approve id reviewer =>
    match d.on (·.transition (claim id reviewer m.now)) with
    | (.error e, d) => (.done (.error (.store e)), d)
    | (.ok none, d) => (.refuse id .approved, d)
    | (.ok (some p), d) => (.tellApproved p reviewer, d)
  | .tellApproved p reviewer => (.carryOut p reviewer, d.tell (.statusChanged p.id .approved none))
  | .carryOut p reviewer =>
    (.settle p reviewer (reg.execute p.actionType p.params p.record), d.dispatch p)
  | .settle p reviewer o =>
    let entry := Audit.Entry.ofExecution m.fresh p (.ofReviewer reviewer) o m.now
    match d.on (·.transitionWithEntry (ending p.id o) entry) with
    | (.error e, d) => (.done (.error (.store e)), d)
    | (.ok false, d) => (.refuse p.id (statusOf o), d)
    | (.ok true, d) => (.tellSettled p o, d)
  | .tellSettled p o =>
    (.done (.ok { p with status := statusOf o, error := o.error }),
      d.tell (.statusChanged p.id (statusOf o) o.error))
  | .reject id reviewer reason =>
    match found d.store id with
    | .error e => (.done (.error e), d)
    | .ok p =>
      if p.status.canBecome .rejected then (.dismiss p reviewer reason, d)
      else (.done (.error (.conflict id p.status .rejected)), d)
  | .dismiss p reviewer reason =>
    let entry := Audit.Entry.ofRejection m.fresh p (.ofReviewer reviewer) reason m.now
    match d.on (·.transitionWithEntry (rejection p.id reviewer m.now) entry) with
    | (.error e, d) => (.done (.error (.store e)), d)
    | (.ok false, d) => (.refuse p.id .rejected, d)
    | (.ok true, d) => (.tellRejected p.id, d)
  | .tellRejected id => (.reread id, d.tell (.statusChanged id .rejected none))
  | .reread id => (.done (found d.store id), d)
  | .retry id =>
    match found d.store id with
    | .error e => (.done (.error e), d)
    | .ok p =>
      if p.status = .failed then (.renew (p.retried m.fresh m.now), d)
      else (.done (.error (.conflict id p.status .pending)), d)
  | .renew p =>
    match d.on (·.insertProposal p) with
    | (.error e, d) => (.done (.error (.store e)), d)
    | (.ok false, d) => (.done (.error (.duplicate p.recordId)), d)
    | (.ok true, d) => (.tellRenewed p, d)
  | .tellRenewed p => (.done (.ok p), d.tell (.proposed p))
  | .refuse id target => (.done (.error (refusal d.store id target)), d)
  | .done r => (.done r, d)

/-- All that is pending, newest first. -/
def pending (s : Store) : Except Store.Error (List Proposal) :=
  s.listProposals (some .pending) maxPage

/-- A page of proposals, newest first. -/
def list (s : Store) (status : Option Status) (limit : Option Nat) :
    Except Store.Error (List Proposal) :=
  s.listProposals status (max 1 (min (limit.getD defaultPage) maxPage))

/-- How many steps are left at most. -/
def left : Review → Nat
  | .approve _ _ => 5
  | .tellApproved _ _ => 4
  | .carryOut _ _ => 3
  | .settle _ _ _ => 2
  | .tellSettled _ _ => 1
  | .reject _ _ _ => 4
  | .dismiss _ _ _ => 3
  | .tellRejected _ => 2
  | .reread _ => 1
  | .retry _ => 3
  | .renew _ => 2
  | .tellRenewed _ => 1
  | .refuse _ _ => 1
  | .done _ => 0

end Review
end Signoff
