import Signoff.Desk.Basic

/-!
Taking in records: the policies in force decide on all of them as of one instant, and each match
becomes a pending proposal, unless an equal one is pending already. Nothing is carried out here.
-/

namespace Signoff

namespace Intake

/-- What became of a batch. -/
structure Report where
  created : List Proposal
  /-- Matches for which an equal proposal is pending. -/
  duplicates : Nat
  unmatched : Nat
  anomalies : Nat

def Report.empty : Report := ⟨[], 0, 0, 0⟩

def Report.toJson (r : Report) : Json :=
  .ofMembers [("created", .arr (r.created.map (·.toJson))), ("duplicates", .int r.duplicates),
    ("unmatched", .int r.unmatched), ("anomalies", .int r.anomalies)]

/-- What a batch comes to. -/
abbrev Result := Except Store.Error Report

end Intake

/-- A batch under way: what is to be done next. -/
inductive Intake where
  /-- Read the policies and decide. -/
  | batch (records : List Record)
  /-- Add the match of the next decision. -/
  | place (decisions : List Decision) (now : Instant) (r : Intake.Report)
  /-- Tell of a new proposal. -/
  | tellProposed (p : Proposal) (decisions : List Decision) (now : Instant) (r : Intake.Report)
  | done (r : Intake.Result)

namespace Intake

/-- One step of a batch. -/
def step (floor : Double) (m : Moment) (d : Desk) : Intake → Intake × Desk
  | .batch records =>
    match d.store.listPolicies true with
    | .error e => (.done (.error e), d)
    | .ok policies =>
      (.place (Decision.decideAll floor records policies m.now) m.now .empty, d)
  | .place [] _ r => (.done (.ok r), d)
  | .place (x :: rest) now r =>
    let r := { r with anomalies := r.anomalies + x.trace.anomalies }
    match x.found with
    | none => (.place rest now { r with unmatched := r.unmatched + 1 }, d)
    | some found =>
      let p := Proposal.ofMatch m.fresh found now
      match d.on (·.insertProposal p) with
      | (.error e, d) => (.done (.error e), d)
      | (.ok false, d) => (.place rest now { r with duplicates := r.duplicates + 1 }, d)
      | (.ok true, d) => (.tellProposed p rest now r, d)
  | .tellProposed p rest now r =>
    (.place rest now { r with created := r.created ++ [p] }, d.tell (.proposed p))
  | .done r => (.done r, d)

/-- How many steps are left at most. -/
def left : Intake → Nat
  | .batch records => 2 * records.length + 2
  | .place decisions _ _ => 2 * decisions.length + 1
  | .tellProposed _ decisions _ _ => 2 * decisions.length + 2
  | .done _ => 0

end Intake
end Signoff
