import Signoff.Store.Basic

/-!
The table of proposals. A status changes only from the one it is expected to have, so of several
changes from one status a single one takes effect.
-/

namespace Signoff.Store

/-- A change of status: made only if the proposal still stands at `source`. -/
structure Transition where
  id : Uuid
  source : Status
  target : Status
  /-- Kept as it is when none. -/
  decidedBy : Option String
  /-- Kept as it is when none. -/
  decidedAt : Option Instant
  error : Option String

/-- Whether two rows may not both be pending: they are about one record, by one policy. -/
def ProposalRow.rivals (r t : ProposalRow) : Bool :=
  r.recordId.clashes t.recordId && r.policyId.clashes t.policyId

def ProposalRow.isPending (r : ProposalRow) : Bool := r.status == .text Status.pending.name

/-- Whether a row can stand beside another. -/
def ProposalRow.fitsBeside (r t : ProposalRow) : Bool :=
  !r.id.clashes t.id && !(r.isPending && t.isPending && r.rivals t)

/-- Adds a proposal, unless its identifier is taken or a rival is pending; says whether it did. -/
def insertProposal (s : Store) (p : Proposal) : Reply Bool :=
  match s.requires .proposals "insert_proposal" with
  | .error e => (.error e, s)
  | .ok _ =>
    let row := ProposalRow.ofProposal p
    if s.proposals.all row.fitsBeside then (.ok true, { s with proposals := s.proposals ++ [row] })
    else (.ok false, s)

/-- Whether a row is that of an identifier. -/
def ProposalRow.isOf (r : ProposalRow) (id : Uuid) : Bool := r.id == .text id.text

/-- The proposal under an identifier, if there is one. -/
def getProposal (s : Store) (id : Uuid) : Except Error (Option Proposal) := do
  s.requires .proposals "get_proposal"
  match s.proposals.find? (·.isOf id) with
  | some r => r.read.map some
  | none => return none

/-- Whether a row comes before another in lists: the newer first. -/
def ProposalRow.newer (r t : ProposalRow) : Bool := r.created.compare t.created != .lt

/-- Rows with the newest first; of equally old ones the one that came last. -/
def newestFirst {α : Type} (newer : α → α → Bool) (rows : List α) : List α :=
  rows.reverse.mergeSort newer

/-- The newest proposals, of one status or of any. -/
def listProposals (s : Store) (status : Option Status) (limit : Nat) :
    Except Error (List Proposal) := do
  s.requires .proposals "list_proposals"
  let rows := match status with
    | some status => s.proposals.filter (·.status == .text status.name)
    | none => s.proposals
  ((newestFirst ProposalRow.newer rows).take limit).mapM (·.read)

/-- A value to put into a cell, or what stands there. -/
def orKept (c : Option String) (kept : Cell) : Cell :=
  match c with
  | some s => .text s
  | none => kept

/-- The row after a change of status. -/
def ProposalRow.apply (r : ProposalRow) (t : Transition) : ProposalRow :=
  { r with
    status := .text t.target.name
    decidedAt := orKept (t.decidedAt.map (·.sortableText)) r.decidedAt
    decidedBy := orKept t.decidedBy r.decidedBy
    error := .ofText? t.error }

/-- Whether a change of status takes effect on a row. -/
def Transition.appliesTo (t : Transition) (r : ProposalRow) : Bool :=
  r.isOf t.id && r.status == .text t.source.name

/-- Makes a change of status and answers with the row that was changed, if there was one. -/
def transition (s : Store) (t : Transition) : Reply (Option Proposal) :=
  if !t.source.canBecome t.target then (.error (.notAllowed t.source t.target), s)
  else
    match s.requires .proposals "transition_proposal" with
    | .error e => (.error e, s)
    | .ok _ =>
      match s.proposals.find? t.appliesTo with
      | none => (.ok none, s)
      | some r =>
        ((r.apply t).read.map some,
          { s with proposals := s.proposals.map fun r => if t.appliesTo r then r.apply t else r })

end Signoff.Store
