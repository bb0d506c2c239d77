import Signoff.Store.Proposals

/-!
The ledger. Entries are added together with the change of status that they are about, and are never
touched again.
-/

namespace Signoff.Store

/-- Adds an entry, unless its identifier is taken. -/
def insertEntry (s : Store) (e : Audit.Entry) : Reply Unit :=
  match s.requires .ledger "insert_audit" with
  | .error e => (.error e, s)
  | .ok _ =>
    let row := EntryRow.ofEntry e
    if s.ledger.any (·.id.clashes row.id) then (.error (.query "insert_audit"), s)
    else (.ok (), { s with ledger := s.ledger ++ [row] })

/-- Makes a change of status and adds its entry, both or neither; says whether it did. -/
def transitionWithEntry (s : Store) (t : Transition) (e : Audit.Entry) : Reply Bool :=
  match s.transition t with
  | (.error e, _) => (.error e, s)
  | (.ok none, _) => (.ok false, s)
  | (.ok (some _), changed) =>
    match changed.insertEntry e with
    | (.error e, _) => (.error e, s)
    | (.ok _, changed) => (.ok true, changed)

def EntryRow.newer (r t : EntryRow) : Bool := r.created.compare t.created != .lt

def EntryRow.older (r t : EntryRow) : Bool := r.created.compare t.created != .gt

/-- Whether a bound on the time of a row holds; a row without a time meets none. -/
def inBound (bound : Option Instant) (created : Cell) (accept : Ordering → Bool) : Bool :=
  match bound with
  | none => true
  | some t => created != .null && accept (created.compare (instantCell t))

/-- Whether an entry is asked for. -/
def EntryRow.meets (r : EntryRow) (f : Audit.Filter) : Bool :=
  f.actionType.all (fun a => r.actionType == .text a)
    && f.status.all (fun status => r.outcome == .text status.name)
    && inBound f.since r.created (·.isGE)
    && inBound f.till r.created (·.isLE)

/-- The newest entries that are asked for. -/
def listEntries (s : Store) (f : Audit.Filter) : Except Error (List Audit.Entry) := do
  s.requires .ledger "list_audit_records"
  let rows := s.ledger.filter (·.meets f)
  ((newestFirst EntryRow.newer rows).take f.effectiveLimit).mapM (·.read)

/-- The entries on a proposal, oldest first. -/
def entriesFor (s : Store) (id : Uuid) : Except Error (List Audit.Entry) := do
  s.requires .ledger "audit_records_for_proposal"
  let rows := s.ledger.filter (·.proposalId == .text id.text)
  (rows.mergeSort EntryRow.older).mapM (·.read)

end Signoff.Store
