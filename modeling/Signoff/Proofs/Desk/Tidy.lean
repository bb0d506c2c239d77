import Mathlib
import Signoff.Proofs.Desk.Announcing
import Signoff.Proofs.Desk.Lifecycle
import Signoff.Proofs.Desk.PolicyTable
import Signoff.Proofs.Store.Description
import Signoff.Proofs.Store.PolicyRows
import Signoff.Proofs.Web.Asking

/-!
Stores that can be read in full. Calls that were brought from outside keep a store so, whichever steps
they take, as what they write was read from a text or from the store itself. No confidence in such a
store is a zero with a sign, so a proposal reads as the very proposal that was added.
-/

namespace Signoff

open Store

/-- A store in which every proposal can be read, with the confidences as cells have them. -/
structure Store.Tidy (s : Store) : Prop extends Ready s where
  readable : s.Readable
  rates : ∀ r ∈ s.policies, ∃ x, r.confidence = .ofDouble x

theorem Store.tidy_empty : Store.empty.Tidy :=
  ⟨ready_empty, readable_empty, fun _ h => nomatch h⟩

/-- Whether zeros among the confidences that a call will write down have no sign. -/
def Call.Unsigned : Call → Prop
  | .review (.renew p) => Cell.ofDouble p.confidence = .real p.confidence
  | .intake (.place decisions _ _) | .intake (.tellProposed _ decisions _ _) =>
    ∀ x ∈ decisions, ∀ f, x.found = some f → Cell.ofDouble f.confidence = .real f.confidence
  | _ => True

/-- All that a call will write down reads as it is. -/
structure Call.Carries (c : Call) : Prop where
  bears : c.Bears
  unsigned : c.Unsigned

variable {d : Desk} {m : Moment} {c : Call}

theorem carries_of_isStart (h : c.isStart = true)
    (hw : ∀ records, c = .intake (.batch records) → ∀ r ∈ records, r.Written) : c.Carries := by
  refine ⟨bears_of_isStart h hw, ?_⟩
  rcases c with r | i | a | q | q
  · cases r <;> trivial
  · cases i <;> trivial
  all_goals trivial

theorem Call.Brought.carries (h : c.Brought) : c.Carries := carries_of_isStart h.start h.records

/-- A call that has not begun has nothing to tell. -/
theorem tells?_of_isStart (h : c.isStart = true) : c.tells? = none := by
  rcases c with r | i | a | q | q
  · cases r <;> first | rfl | cases h
  · cases i <;> first | rfl | cases h
  all_goals rfl

theorem holds_of_adds? {p : Proposal} (h : c.Carries) (ha : c.adds? m = some p) :
    p.status = .pending ∧ (ProposalRow.ofProposal p).Holds p := by
  obtain ⟨hstatus, hstorable⟩ := storable_of_adds? h.bears ha
  have hunsigned : Cell.ofDouble p.confidence = .real p.confidence := by
    have hcarried := h.unsigned
    cases Call.adds_of_eq ha with
    | renewed p => exact hcarried
    | matched hx xs now r => exact hcarried _ List.mem_cons_self _ hx
  exact ⟨hstatus, holds_ofProposal hstorable hunsigned⟩

/-! ### What calls come to carry -/

/-- Policies that are read have the confidences of their rows. -/
theorem Store.Tidy.unsigned_listed {s : Store} (h : s.Tidy) {enabledOnly : Bool}
    {policies : List Policy} (hlist : s.listPolicies enabledOnly = .ok policies) :
    ∀ p ∈ policies, Cell.ofDouble p.body.confidence = .real p.body.confidence := by
  intro p hp
  obtain ⟨r, hr, hread⟩ := mem_of_listPolicies hlist hp
  obtain ⟨x, hx⟩ := h.rates r hr
  apply ofDouble_of_ofDouble
  rw [← hx]
  exact (readPolicy_ok.mp hread).confidence

theorem unsigned_review (su : Setup) (h : d.store.Tidy) (r : Review) :
    (Call.review (r.step su.registry m d).1).Unsigned := by
  cases hnext : (r.step su.registry m d).1 with
  | renew p =>
    -- the proposal that is tried again was read from its row
    obtain ⟨-, u, q, hrow, hreads, -, rfl⟩ := renews_step su.registry h.toReady hnext
    obtain ⟨p, hp⟩ := h.readable u (mem_of_rowOf hrow).1
    have heq : q = p := hp.eq (read_ok.mpr hreads)
    rw [heq]
    exact hp.confidence
  | _ => trivial

theorem unsigned_intake (floor : Double) (h : d.store.Tidy) {i : Intake}
    (hc : (Call.intake i).Unsigned) : (Call.intake (i.step floor m d).1).Unsigned := by
  cases i with
  | batch records =>
    rw [Intake.step]
    split
    · trivial
    · next policies hlist =>
      intro x hx f hf
      obtain ⟨r, hr, rfl⟩ := List.mem_map.mp hx
      obtain ⟨p, hp, rfl⟩ := Option.map_eq_some_iff.mp hf
      -- a match has the confidence of the policy that made it
      have hmem := (Policy.mem_inForce.mp (Decision.mem_of_scan hp)).1
      exact h.unsigned_listed hlist p hmem
  | place decisions now r =>
    cases decisions with
    | nil => trivial
    | cons x rest =>
      have hrest : (Call.intake (.place rest now r)).Unsigned :=
        fun y hy => hc y (List.mem_cons_of_mem _ hy)
      rw [Intake.step]
      dsimp only
      split
      · exact hrest
      · split
        · trivial
        · exact hrest
        · exact hrest
  | tellProposed p decisions now r => exact hc
  | done r => trivial

theorem carries_step (su : Setup) (h : d.store.Tidy) (hnow : m.now.Sortable) (hc : c.Carries) :
    (c.step su m d).1.Carries := by
  refine ⟨bears_step su h.toReady hnow hc.bears, ?_⟩
  rcases c with r | i | a | q | q
  · exact unsigned_review su h r
  · exact unsigned_intake su.floor h hc.unsigned
  all_goals trivial

/-! ### What calls leave behind -/

theorem rows_readable_step (su : Setup) (h : d.store.Tidy) (hnow : m.now.Sortable) (hc : c.Carries) :
    (c.step su m d).2.store.Readable := by
  have hsame {s : Store} (hs : s.proposals = d.store.proposals) : s.Readable := by
    intro r hr
    exact h.readable r (hs ▸ hr)
  have hannounces := announces_step h.toReady h.readable hnow su c
  generalize (c.step su m d).2 = d' at hannounces
  cases hannounces with
  | quiet _ _ hp _ => exact hsame hp
  | told e _ _ hs _ => exact hsame (congrArg Store.proposals hs)
  | added p _ ha _ _ hp _ =>
    -- the call carried the proposal, so that its row can be read
    have happend := h.readable.append (holds_of_adds? hc ha).2
    intro r hr
    exact happend r (hp ▸ hr)
  | moved t _ ht _ _ hp _ =>
    have hchanged := h.readable.changed (t := t) fun now hdecided => tries?_now ht now hdecided ▸ hnow
    intro r hr
    exact hchanged r (hp ▸ hr)

theorem tidy_step (su : Setup) (h : d.store.Tidy) (hnow : m.now.Sortable) (hc : c.Carries) :
    (c.step su m d).2.store.Tidy := by
  refine ⟨ready_effect h.toReady (effect_step su c), rows_readable_step su h hnow hc, ?_⟩
  apply c.rows_step su m h.rates
  · intro draft body _ _
    exact ⟨body.confidence, rfl⟩
  · intro id draft body r _ _ _ _
    exact ⟨body.confidence, rfl⟩
  · intro id enabled r _ _ hr
    exact h.rates r hr

theorem tidy_run {t : Traffic} (h : t.desk.store.Tidy) (hc : ∀ c ∈ t.calls, c.Carries)
    {turns : List Turn} (hclock : ∀ x ∈ turns, x.moment.now.Sortable) :
    (t.run turns).desk.store.Tidy := by
  refine (run_keeps (I := fun d => d.store.Tidy) ?_ h hc hclock).1
  intro x c d hnow htidy hcarries
  exact ⟨tidy_step x.setup htidy hnow hcarries, carries_step x.setup htidy hnow hcarries⟩

/-- Whatever calls are brought to a desk that was empty, all proposals on it can be read. -/
theorem tidy_of_brought {calls : List Call} (hbrought : ∀ c ∈ calls, c.Brought) {turns : List Turn}
    (hclock : ∀ x ∈ turns, x.moment.now.Sortable) :
    ((⟨.empty, calls⟩ : Traffic).run turns).desk.store.Tidy :=
  tidy_run (t := ⟨.empty, calls⟩) tidy_empty (fun c hc => (hbrought c hc).carries) hclock

end Signoff
