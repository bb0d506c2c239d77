import Mathlib
import Signoff.Proofs.Desk.Rows
import Signoff.Proofs.Store.PendingSet

/-!
What calls write about proposals, and what they tell of it. A step that adds a proposal or moves one
leads to a call that has that to tell, and telling is all that its next step does to the desk; no
other step does either.
-/

namespace Signoff

open Store

/-- What the next step of a call tells reviewers. -/
def Call.tells? : Call → Option Proposal.Event
  | .review (.tellApproved p _) => some (.statusChanged p.id .approved none)
  | .review (.tellSettled p o) => some (.statusChanged p.id (Review.statusOf o) o.error)
  | .review (.tellRejected id) => some (.statusChanged id .rejected none)
  | .review (.tellRenewed p) | .intake (.tellProposed p _ _ _) => some (.proposed p)
  | _ => none

/-- What one step of a call writes about proposals, and what it tells. -/
inductive Announces (m : Moment) (d : Desk) (c c' : Call) (d' : Desk) : Prop
  | quiet (hc : c.tells? = none) (hc' : c'.tells? = none)
    (hp : d'.store.proposals = d.store.proposals) (ht : d'.told = d.told)
  | told (e : Proposal.Event) (hc : c.tells? = some e) (hc' : c'.tells? = none)
    (hs : d'.store = d.store) (ht : d'.told = d.told ++ [e])
  | added (p : Proposal) (hc : c.tells? = none) (ha : c.adds? m = some p)
    (hc' : c'.tells? = some (.proposed p)) (hrow : d.store.rowOf p.id = none)
    (hp : d'.store.proposals = d.store.proposals ++ [.ofProposal p]) (ht : d'.told = d.told)
  | moved (t : Transition) (hc : c.tells? = none) (ht : c.tries? m = some t)
    (hc' : c'.tells? = some (.statusChanged t.id t.target t.error))
    (hrow : ∃ r, d.store.rowOf t.id = some r ∧ r.status = .text t.source.name)
    (hp : d'.store.proposals = (d.store.changed t).proposals) (htold : d'.told = d.told)

variable {d : Desk} {m : Moment}

theorem told_authoring (a : Authoring) : (a.step m d).2.told = d.told := by
  obtain ⟨a', s, hstep, -⟩ := Authoring.steps m d a
  rw [hstep]

section Step

variable (hr : d.store.Ready)

include hr

theorem announces_intake (su : Setup) (i : Intake) :
    Announces m d (.intake i) (.intake (i.step su.floor m d).1) (i.step su.floor m d).2 := by
  cases i with
  | batch records =>
    simp only [Intake.step]
    split <;> exact .quiet rfl rfl rfl rfl
  | place decisions now r =>
    cases decisions with
    | nil => exact .quiet rfl rfl rfl rfl
    | cons x rest =>
      cases hfound : x.found with
      | none =>
        simp only [Intake.step, hfound]
        exact .quiet rfl rfl rfl rfl
      | some f =>
        have ha : (Call.intake (.place (x :: rest) now r)).adds? m =
            some (.ofMatch m.fresh f now) := by
          simp only [Call.adds?, hfound, Option.map_some]
        -- what does not fit is passed over; what fits is announced by the step after this one
        rcases insertProposal_cases hr (.ofMatch m.fresh f now) with hi | hi
        · simp only [Intake.step, hfound, Desk.on, hi]
          exact .quiet rfl rfl rfl rfl
        · simp only [Intake.step, hfound, Desk.on, hi]
          exact .added _ rfl ha rfl (rowOf_of_inserted hr (by rw [hi])) rfl rfl
  | tellProposed p decisions now r => exact .told _ rfl rfl rfl rfl
  | done r => exact .quiet rfl rfl rfl rfl

theorem announces_review (hread : d.store.Readable) (hnow : m.now.Sortable) (reg : Registry)
    (r : Review) : Announces m d (.review r) (.review (r.step reg m d).1) (r.step reg m d).2 := by
  cases r with
  | approve id reviewer =>
    rcases hread.transition hr (t := Review.claim id reviewer m.now) rfl
      (by rintro _ ⟨⟩; exact hnow) with ht | ⟨r, p, hrow, hs, hp, ht⟩
    · simp only [Review.step, Desk.on, ht]
      exact .quiet rfl rfl rfl rfl
    · simp only [Review.step, Desk.on, ht]
      -- the claim is told by the identifier of the row that was claimed
      refine .moved (Review.claim id reviewer m.now) rfl rfl ?_ ⟨r, hrow, hs⟩ rfl rfl
      rw [Call.tells?, hp]
      rfl
  | settle p reviewer o =>
    -- whether it is carried out or failed, there is a way there from approved
    have hedge : (Review.ending p.id o).source.canBecome (Review.ending p.id o).target = true := by
      simp only [Review.ending, Review.statusOf]
      split <;> rfl
    rcases hread.transitionWithEntry hr (t := Review.ending p.id o)
      (.ofExecution m.fresh p (.ofReviewer reviewer) o m.now) hedge (by rintro _ ⟨⟩) with
      ⟨f, ht⟩ | ht | ⟨r, hrow, hs, ht⟩
    · simp only [Review.step, Desk.on, ht]
      exact .quiet rfl rfl rfl rfl
    · simp only [Review.step, Desk.on, ht]
      exact .quiet rfl rfl rfl rfl
    · simp only [Review.step, Desk.on, ht]
      exact .moved (Review.ending p.id o) rfl rfl rfl ⟨r, hrow, hs⟩ rfl rfl
  | dismiss p reviewer reason =>
    rcases hread.transitionWithEntry hr (t := Review.rejection p.id reviewer m.now)
      (.ofRejection m.fresh p (.ofReviewer reviewer) reason m.now) rfl
      (by rintro _ ⟨⟩; exact hnow) with ⟨f, ht⟩ | ht | ⟨r, hrow, hs, ht⟩
    · simp only [Review.step, Desk.on, ht]
      exact .quiet rfl rfl rfl rfl
    · simp only [Review.step, Desk.on, ht]
      exact .quiet rfl rfl rfl rfl
    · simp only [Review.step, Desk.on, ht]
      exact .moved (Review.rejection p.id reviewer m.now) rfl rfl rfl ⟨r, hrow, hs⟩ rfl rfl
  | renew p =>
    rcases insertProposal_cases hr p with hi | hi
    · simp only [Review.step, Desk.on, hi]
      exact .quiet rfl rfl rfl rfl
    · simp only [Review.step, Desk.on, hi]
      exact .added p rfl rfl rfl (rowOf_of_inserted hr (by rw [hi])) rfl rfl
  | reject id reviewer reason =>
    simp only [Review.step]
    split
    · exact .quiet rfl rfl rfl rfl
    · split <;> exact .quiet rfl rfl rfl rfl
  | retry id =>
    simp only [Review.step]
    split
    · exact .quiet rfl rfl rfl rfl
    · split <;> exact .quiet rfl rfl rfl rfl
  | tellApproved p reviewer => exact .told _ rfl rfl rfl rfl
  | tellSettled p o => exact .told _ rfl rfl rfl rfl
  | tellRejected id => exact .told _ rfl rfl rfl rfl
  | tellRenewed p => exact .told _ rfl rfl rfl rfl
  | carryOut p reviewer => exact .quiet rfl rfl rfl rfl
  | reread id => exact .quiet rfl rfl rfl rfl
  | refuse id target => exact .quiet rfl rfl rfl rfl
  | done r => exact .quiet rfl rfl rfl rfl

/-- Every step of a call is one of these. -/
theorem announces_step (hread : d.store.Readable) (hnow : m.now.Sortable) (su : Setup) (c : Call) :
    Announces m d c (c.step su m d).1 (c.step su m d).2 := by
  cases c with
  | review r => exact announces_review hr hread hnow su.registry r
  | intake i => exact announces_intake hr su i
  | authoring a => exact .quiet rfl rfl (quiet_authoring a).proposals (told_authoring a)
  | dryRun request => exact .quiet rfl rfl rfl rfl
  | dryRunDone r => exact .quiet rfl rfl rfl rfl

end Step

end Signoff
