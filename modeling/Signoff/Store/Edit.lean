import Signoff.Store.Ledger

/-!
What others do to the same tables: they put text into a column of one row. The tables keep their
rules, so an edit may be refused.
-/

namespace Signoff.Store

/-- A column: what it prefers, whether it may be empty, and where it stands in a row. -/
structure Column (ρ : Type) where
  affinity : Cell.Affinity
  nullable : Bool
  set : ρ → Cell → ρ

/-- The columns of the table of policies, but for the number. -/
def PolicyRow.column? : String → Option (Column PolicyRow)
  | "name" => some ⟨.text, false, fun r c => { r with name := c }⟩
  | "priority" => some ⟨.integer, false, fun r c => { r with priority := c }⟩
  | "enabled" => some ⟨.integer, false, fun r c => { r with enabled := c }⟩
  | "condition" => some ⟨.text, false, fun r c => { r with condition := c }⟩
  | "action_type" => some ⟨.text, false, fun r c => { r with actionType := c }⟩
  | "action_params" => some ⟨.text, false, fun r c => { r with params := c }⟩
  | "confidence_threshold" => some ⟨.real, false, fun r c => { r with confidence := c }⟩
  | "rationale_template" => some ⟨.text, false, fun r c => { r with rationale := c }⟩
  | "created_at" => some ⟨.text, false, fun r c => { r with created := c }⟩
  | "updated_at" => some ⟨.text, false, fun r c => { r with updated := c }⟩
  | _ => none

/-- The columns of the table of proposals. -/
def ProposalRow.column? : String → Option (Column ProposalRow)
  | "id" => some ⟨.text, true, fun r c => { r with id := c }⟩
  | "record_id" => some ⟨.text, false, fun r c => { r with recordId := c }⟩
  | "record_summary" => some ⟨.text, false, fun r c => { r with summary := c }⟩
  | "action_type" => some ⟨.text, false, fun r c => { r with actionType := c }⟩
  | "params" => some ⟨.text, false, fun r c => { r with params := c }⟩
  | "policy_id" => some ⟨.integer, true, fun r c => { r with policyId := c }⟩
  | "confidence" => some ⟨.real, false, fun r c => { r with confidence := c }⟩
  | "rationale" => some ⟨.text, false, fun r c => { r with rationale := c }⟩
  | "status" => some ⟨.text, false, fun r c => { r with status := c }⟩
  | "created_at" => some ⟨.text, false, fun r c => { r with created := c }⟩
  | "decided_at" => some ⟨.text, true, fun r c => { r with decidedAt := c }⟩
  | "decided_by" => some ⟨.text, true, fun r c => { r with decidedBy := c }⟩
  | "error" => some ⟨.text, true, fun r c => { r with error := c }⟩
  | "retry_of" => some ⟨.text, true, fun r c => { r with retryOf := c }⟩
  | _ => none

/-- The cell that a column takes for a text; none when it may not be empty and would be. -/
def Column.cell? {ρ : Type} (c : Column ρ) (text : Option String) : Option Cell :=
  match text with
  | some s => some (.put c.affinity s)
  | none => if c.nullable then some .null else none

/-- The whole number that a text stands for as a policy's number. -/
def policyId? (text : String) : Option Int :=
  match Cell.put .integer text with
  | .integer n => some n
  | _ => none

/-- Gives a policy another number, one that is free. -/
def renumber (s : Store) (id : Int) (text : Option String) : Option Store :=
  match text.bind policyId? with
  | none => none
  | some new =>
    if new ≠ id ∧ s.policies.any (·.id == new) then none
    else some { s with policies := s.policies.map fun r => if r.id = id then { r with id := new } else r }

/-- Puts text into a column of a policy. The answer is how many rows changed, or none when the
tables refuse. -/
def editPolicy (s : Store) (id : String) (column : String) (text : Option String) :
    Option Nat × Store :=
  match policyId? id with
  | none => (some 0, s)
  | some id =>
    if !s.policies.any (·.id == id) then (some 0, s)
    else if column = "id" then
      match s.renumber id text with
      | some s => (some 1, s)
      | none => (none, s)
    else
      match PolicyRow.column? column with
      | none => (none, s)
      | some c =>
        match c.cell? text with
        | none => (none, s)
        | some cell =>
          (some 1, { s with policies := s.policies.map fun r => if r.id = id then c.set r cell else r })

/-- Whether the rows before and after a row let it stand between them. -/
def fitsAmong (others : List ProposalRow) (r : ProposalRow) : Bool := others.all r.fitsBeside

/-- Puts text into a column of a proposal. -/
def editProposal (s : Store) (id : String) (column : String) (text : Option String) :
    Option Nat × Store :=
  match s.proposals.find? (·.id == .text id) with
  | none => (some 0, s)
  | some r =>
    match ProposalRow.column? column with
    | none => (none, s)
    | some c =>
      match c.cell? text with
      | none => (none, s)
      | some cell =>
        if fitsAmong (s.proposals.filter (·.id != .text id)) (c.set r cell) then
          (some 1, { s with
            proposals := s.proposals.map fun r => if r.id = .text id then c.set r cell else r })
        else (none, s)

/-- Entries are not to be touched: there is none to change, or the edit is refused. -/
def editLedger (s : Store) (id : String) : Option Nat :=
  if s.ledger.any (·.id == .text id) then none else some 0

/-- Puts text into a column of the row with an identifier. Entries of the ledger refuse. -/
def edit (s : Store) (table id column : String) (text : Option String) : Option Nat × Store :=
  match table with
  | "policies" => if s.schema.has .policies then s.editPolicy id column text else (none, s)
  | "proposed_actions" =>
    if s.schema.has .proposals then s.editProposal id column text else (none, s)
  | "audit_records" => if s.schema.has .ledger then (s.editLedger id, s) else (none, s)
  | _ => (none, s)

/-- Tries to change or to remove every entry of the ledger; says whether that was refused. -/
def tamperLedger (s : Store) : Bool := !s.ledger.isEmpty

end Signoff.Store
