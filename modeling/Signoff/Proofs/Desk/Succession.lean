import Mathlib
import Signoff.Desk.Call
import Signoff.Proofs.Desk.Effect

/-!
What a decision can come to next. `Leads` lists it, kind by kind; what is known of the calls under
way is known from this list.
-/

namespace Signoff

variable {d : Desk} {m : Moment}

/-- What a change at the desk answers and leaves is what it answers and leaves at the store. -/
theorem Desk.of_on {α : Type} {f : Store → Store.Reply α} {answer : Except Store.Error α} {d' : Desk}
    (h : d.on f = (answer, d')) : f d.store = (answer, d'.store) := by
  obtain ⟨hanswer, hdesk⟩ := Prod.mk.inj h
  exact Prod.ext hanswer (congrArg Desk.store hdesk)

theorem id_of_found (hr : d.store.Ready) {id : Uuid} {p : Proposal}
    (h : Review.found d.store id = .ok p) :
    p.id = id ∧ ∃ r, d.store.rowOf id = some r ∧ r.Reads p := by
  rw [Review.found] at h
  split at h
  · cases h
  · cases h
  · next q hq =>
    obtain ⟨r, hrow, hreads⟩ := (Store.getProposal_some hr.hasProposals).mp hq
    cases h
    exact ⟨hreads.id_eq (Store.mem_of_rowOf hrow).2, r, hrow, hreads⟩

/-- A step can lead from one decision under way to another. -/
inductive Leads (m : Moment) : Review → Review → Prop
  | claimed (p : Proposal) (reviewer : Option String) :
    Leads m (.approve p.id reviewer) (.tellApproved p reviewer)
  | unclaimed (id : Uuid) (reviewer : Option String) :
    Leads m (.approve id reviewer) (.refuse id .approved)
  | announced (p : Proposal) (reviewer : Option String) :
    Leads m (.tellApproved p reviewer) (.carryOut p reviewer)
  | handedOut (p : Proposal) (reviewer : Option String) (o : Outcome) :
    Leads m (.carryOut p reviewer) (.settle p reviewer o)
  | settled (p : Proposal) (reviewer : Option String) (o : Outcome) :
    Leads m (.settle p reviewer o) (.tellSettled p o)
  | unsettled (p : Proposal) (reviewer : Option String) (o : Outcome) :
    Leads m (.settle p reviewer o) (.refuse p.id (Review.statusOf o))
  | looked (p : Proposal) (reviewer reason : Option String) :
    Leads m (.reject p.id reviewer reason) (.dismiss p reviewer reason)
  | dismissed (p : Proposal) (reviewer reason : Option String) :
    Leads m (.dismiss p reviewer reason) (.tellRejected p.id)
  | undismissed (p : Proposal) (reviewer reason : Option String) :
    Leads m (.dismiss p reviewer reason) (.refuse p.id .rejected)
  | rejected (id : Uuid) : Leads m (.tellRejected id) (.reread id)
  | retried (p : Proposal) (r : Store.ProposalRow) (hp : r.Reads p) :
    Leads m (.retry p.id) (.renew (p.retried m.fresh m.now))
  | renewed (p : Proposal) : Leads m (.renew p) (.tellRenewed p)
  | ended (r : Review) (result : Review.Result) : Leads m r (.done result)

theorem leads_step (reg : Registry) (hr : d.store.Ready) (r : Review) :
    Leads m r (r.step reg m d).1 := by
  -- each branch has its constructor; what was read is of the identifier that was asked for
  cases r with
  | approve id reviewer =>
    simp only [Review.step]
    split
    · exact .ended _ _
    · exact .unclaimed _ _
    · next p d' ht =>
      obtain ⟨-, -, ⟨r, hrow, -, hread⟩, -⟩ := Store.transition_some hr.toKeyed (Desk.of_on ht)
      have hid : p.id = id := (Store.read_ok.mp hread).id_eq
        (r := r.apply (Review.claim id reviewer m.now)) (Store.mem_of_rowOf hrow).2
      exact hid ▸ .claimed p reviewer
  | tellApproved p reviewer => exact .announced _ _
  | carryOut p reviewer => exact .handedOut _ _ _
  | settle p reviewer o =>
    simp only [Review.step]
    split
    · exact .ended _ _
    · exact .unsettled _ _ _
    · exact .settled _ _ _
  | reject id reviewer reason =>
    simp only [Review.step]
    split
    · exact .ended _ _
    · next p hp =>
      split
      · exact (id_of_found hr hp).1 ▸ .looked p reviewer reason
      · exact .ended _ _
  | dismiss p reviewer reason =>
    simp only [Review.step]
    split
    · exact .ended _ _
    · exact .undismissed _ _ _
    · exact .dismissed _ _ _
  | tellRejected id => exact .rejected _
  | retry id =>
    simp only [Review.step]
    split
    · exact .ended _ _
    · next p hp =>
      split
      · obtain ⟨hid, r, -, hreads⟩ := id_of_found hr hp
        exact hid ▸ .retried p r hreads
      · exact .ended _ _
  | renew p =>
    simp only [Review.step]
    split
    · exact .ended _ _
    · exact .ended _ _
    · exact .renewed _
  | tellSettled p o => exact .ended _ _
  | reread id => exact .ended _ _
  | tellRenewed p => exact .ended _ _
  | refuse id target => exact .ended _ _
  | done r => exact .ended _ _

/-- What is about to be added again was read just now, and had failed. -/
theorem renews_step (reg : Registry) (hr : d.store.Ready) {r : Review} {p : Proposal}
    (h : (r.step reg m d).1 = .renew p) :
    (r.step reg m d).2 = d ∧ ∃ u q, d.store.rowOf q.id = some u ∧ u.Reads q ∧
      q.status = .failed ∧ p = q.retried m.fresh m.now := by
  have hleads := leads_step (m := m) reg hr r
  rw [h] at hleads
  cases r with
  | retry id =>
    refine ⟨retry_desk reg id, ?_⟩
    rw [Review.step] at h
    cases hfound : Review.found d.store id with
    | error e =>
      rw [hfound] at h
      cases h
    | ok q =>
      rw [hfound] at h
      dsimp only at h
      split_ifs at h with hfailed
      obtain ⟨rfl, u, hrow, hreads⟩ := id_of_found hr hfound
      cases h
      exact ⟨u, q, hrow, hreads, hfailed, rfl⟩
  | _ =>
    -- no other decision leads there
    cases hleads

end Signoff
