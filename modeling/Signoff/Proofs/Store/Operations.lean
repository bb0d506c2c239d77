import Mathlib
import Signoff.Store.Policies
import Signoff.Proofs.Store.AuditedTransition
import Signoff.Proofs.Store.Reading

/-!
The operations on proposals and their entries, in a store that has its tables. Each of them does one
thing or nothing, and leaves the tables with their keys. Those on policies leave them alone.
-/

namespace Signoff.Store

/-- A store with the tables that decisions need. -/
structure Ready (s : Store) : Prop extends Keyed s where
  hasProposals : s.schema.has .proposals = true
  hasLedger : s.schema.has .ledger = true

theorem ready_empty : empty.Ready := ⟨keyed_empty, by decide, by decide⟩

/-- The entries on a proposal, oldest first. -/
def entriesOn (s : Store) (id : Uuid) : List EntryRow :=
  s.ledger.filter (·.proposalId == .text id.text)

/-- Whether an identifier is free for an entry. -/
def Unused (s : Store) (id : Uuid) : Prop := ∀ f ∈ s.ledger, f.id ≠ .text id.text

/-- Two stores that differ in their policies at most. -/
structure PoliciesOnly (s s' : Store) : Prop where
  proposals : s'.proposals = s.proposals
  ledger : s'.ledger = s.ledger
  schema : s'.schema = s.schema

theorem PoliciesOnly.refl (s : Store) : s.PoliciesOnly s := ⟨rfl, rfl, rfl⟩

theorem policiesOnly_insertPolicy (s : Store) (b : Policy.Body) (now : Instant) :
    s.PoliciesOnly (s.insertPolicy b now).2 := by
  unfold insertPolicy
  split
  · exact .refl s
  · split <;> exact ⟨rfl, rfl, rfl⟩

theorem policiesOnly_changePolicy (s : Store) (call : String) (id : Int)
    (f : PolicyRow → PolicyRow) : s.PoliciesOnly (s.changePolicy call id f).2 := by
  unfold changePolicy
  split <;> exact ⟨rfl, rfl, rfl⟩

theorem policiesOnly_deletePolicy (s : Store) (id : Int) :
    s.PoliciesOnly (s.deletePolicy id).2 := by
  unfold deletePolicy
  split <;> exact ⟨rfl, rfl, rfl⟩

/-- A change of status that is made is one of the life of a proposal. -/
theorem transition_cases (s : Store) (t : Transition) :
    ((s.transition t).2 = s ∧ ∀ p, (s.transition t).1 ≠ .ok (some p)) ∨
      t.source.canBecome t.target = true ∧ (s.transition t).2 = s.changed t := by
  cases he : t.source.canBecome t.target with
  | false =>
    rw [transition_of_not_edge s he]
    left
    simp
  | true =>
    simp only [transition, he, Bool.not_true, Bool.false_eq_true, if_false, true_and]
    split
    · left
      simp
    · split
      · left
        simp
      · right
        rw [changed]
        rfl

theorem insertEntry_store (s : Store) (e : Audit.Entry) :
    ((s.insertEntry e).2 = s ∧ (s.insertEntry e).1 ≠ .ok ()) ∨
      (s.insertEntry e).2 = { s with ledger := s.ledger ++ [.ofEntry e] } := by
  unfold insertEntry
  split
  · left
    simp
  · dsimp only
    split
    · left
      simp
    · exact .inr rfl

theorem insertProposal_store (s : Store) (p : Proposal) :
    (s.insertProposal p).2 = s ∨
      (s.insertProposal p).2 = { s with proposals := s.proposals ++ [.ofProposal p] } := by
  unfold insertProposal
  split
  · exact .inl rfl
  · dsimp only
    split
    · exact .inr rfl
    · exact .inl rfl

/-- An audited change of status is made with its entry or not at all. -/
theorem transitionWithEntry_cases (s : Store) (t : Transition) (e : Audit.Entry) :
    (s.transitionWithEntry t e).2 = s ∨
      t.source.canBecome t.target = true ∧ (s.transitionWithEntry t e).2 = s.changedWith t e := by
  have hmove := transition_cases s t
  -- the change is kept only where the entry is written too
  unfold transitionWithEntry
  split
  · exact .inl rfl
  · exact .inl rfl
  · next p changed ht =>
    rw [ht] at hmove
    have hentry := insertEntry_store changed e
    split
    · exact .inl rfl
    · next u s' hs' =>
      rw [hs'] at hentry
      obtain ⟨-, hno⟩ | ⟨he, hchanged⟩ := hmove
      · exact absurd rfl (hno p)
      · obtain ⟨-, hno⟩ | hadded := hentry
        · exact absurd rfl hno
        · dsimp only at hchanged hadded
          rw [hadded, hchanged]
          exact .inr ⟨he, rfl⟩

/-- Where a row stands as a change expects it, the changed row is in the store after the change. -/
theorem row_changed {s : Store} {t : Transition} {r : ProposalRow} (hrow : s.rowOf t.id = some r)
    (hstatus : r.status = .text t.source.name) :
    r.apply t ∈ (s.changed t).proposals ∧ (r.apply t).isOf t.id = true := by
  obtain ⟨hmem, hid⟩ := mem_of_rowOf hrow
  refine ⟨?_, hid⟩
  rw [← after_of_source hid hstatus]
  exact List.mem_map_of_mem hmem

theorem insertProposal_cases {s : Store} (hr : s.Ready) (p : Proposal) :
    s.insertProposal p = (.ok false, s) ∨
      s.insertProposal p = (.ok true, { s with proposals := s.proposals ++ [.ofProposal p] }) := by
  rw [insertProposal_eq hr.hasProposals]
  split
  · exact .inr rfl
  · exact .inl rfl

theorem isOf_ofProposal {p : Proposal} {id : Uuid} :
    (ProposalRow.ofProposal p).isOf id = true ↔ p.id = id := by
  rw [isOf_iff, ProposalRow.ofProposal, Cell.text.injEq]
  exact ⟨text_injective, congrArg Uuid.text⟩

theorem rowOf_of_inserted {s : Store} (hr : s.Ready) {p : Proposal}
    (h : (s.insertProposal p).1 = .ok true) : s.rowOf p.id = none := by
  rw [insertProposal_eq hr.hasProposals] at h
  split_ifs at h with hfits
  · rw [rowOf, List.find?_eq_none]
    intro u hu hid
    have hc := not_clashes_of_fitsBeside (List.all_eq_true.mp hfits u hu)
    rw [not_isOf_of_not_clashes hc (isOf_ofProposal.mpr rfl)] at hid
    cases hid
  · cases h

theorem Ready.insertProposal {s : Store} (hr : s.Ready) (p : Proposal) :
    (s.insertProposal p).2.Ready := by
  refine ⟨keyed_insertProposal hr.toKeyed p, ?_, ?_⟩ <;>
    rcases insertProposal_cases hr p with h | h <;> rw [h]
  exacts [hr.hasProposals, hr.hasProposals, hr.hasLedger, hr.hasLedger]

theorem Ready.transition {s : Store} (hr : s.Ready) (t : Transition) :
    (s.transition t).2.Ready := by
  refine ⟨keyed_transition hr.toKeyed t, ?_, ?_⟩ <;>
    rcases transition_cases s t with ⟨h, -⟩ | ⟨-, h⟩ <;> rw [h]
  exacts [hr.hasProposals, hr.hasProposals, hr.hasLedger, hr.hasLedger]

theorem Ready.transitionWithEntry {s : Store} (hr : s.Ready) (t : Transition) (e : Audit.Entry) :
    (s.transitionWithEntry t e).2.Ready := by
  refine ⟨keyed_transitionWithEntry hr.toKeyed t e, ?_, ?_⟩ <;>
    rcases transitionWithEntry_cases s t e with h | ⟨-, h⟩ <;> rw [h]
  exacts [hr.hasProposals, hr.hasProposals, hr.hasLedger, hr.hasLedger]

theorem Unused.of_ledger {s s' : Store} {id : Uuid} (h : s.Unused id) (hl : s'.ledger = s.ledger) :
    s'.Unused id := fun f hf => h f (hl ▸ hf)

end Signoff.Store
