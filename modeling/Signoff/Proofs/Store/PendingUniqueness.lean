import Mathlib
import Signoff.Proofs.Store.Operations

/-!
Of two proposals about one record by one policy at most one is pending. A row comes to be pending
only when it is added, and no row is added beside a rival that is pending; what an addition answers
says exactly which of these it was.
-/

namespace Signoff.Store

/-- A call on the tables of proposals and entries. -/
inductive Operation where
  | insert (p : Proposal)
  | change (t : Transition)
  | record (t : Transition) (e : Audit.Entry)

/-- The store after a call. -/
def Operation.apply (s : Store) : Operation → Store
  | .insert p => (s.insertProposal p).2
  | .change t => (s.transition t).2
  | .record t e => (s.transitionWithEntry t e).2

/-- The store after calls in their order. -/
def afterAll (s : Store) (operations : List Operation) : Store := operations.foldl Operation.apply s

/-- Rows that are both pending, about one record and by one policy. -/
structure ProposalRow.Doubles (r u : ProposalRow) : Prop where
  pending : r.status = .text Status.pending.name
  pending' : u.status = .text Status.pending.name
  recordId : r.recordId = u.recordId
  policyId : r.policyId = u.policyId
  known : r.policyId ≠ .null

/-- A store whose proposals were all put there by calls. -/
structure Filled (s : Store) : Prop extends Ready s where
  recordIds : ∀ r ∈ s.proposals, ∃ text, r.recordId = .text text
  policyIds : ∀ r ∈ s.proposals, ∃ policy, r.policyId = .ofInt? policy
  single : s.proposals.Pairwise fun r u => ¬ r.Doubles u

theorem filled_empty : empty.Filled where
  toReady := ready_empty
  recordIds := fun _ h => nomatch h
  policyIds := fun _ h => nomatch h
  single := .nil

theorem clashes_ofInt? {policy other : Option Int} :
    (Cell.ofInt? policy).clashes (Cell.ofInt? other) = true ↔
      Cell.ofInt? policy = Cell.ofInt? other ∧ Cell.ofInt? policy ≠ .null := by
  have hone : (Double.oneUnits : Int) ≠ 0 := by decide +kernel
  cases policy with
  | none => simp [Cell.ofInt?, Cell.clashes]
  | some n =>
    cases other with
    | none => simp [Cell.ofInt?, Cell.clashes]
    | some k =>
      simp only [Cell.ofInt?, Cell.clashes, Cell.compare, Cell.rank, Cell.units,
        Std.compare_self, Ordering.then_eq_eq, true_and, Std.compare_eq_iff_eq, beq_iff_eq,
        Bool.and_eq_true, bne_iff_ne, ne_eq, reduceCtorEq, not_false_eq_true, and_true,
        Cell.integer.injEq]
      exact Int.mul_eq_mul_right_iff hone

theorem rivals_iff {r u : ProposalRow} (ht : ∃ text, r.recordId = .text text)
    (hp : ∃ policy, r.policyId = .ofInt? policy) (hq : ∃ policy, u.policyId = .ofInt? policy) :
    r.rivals u = true ↔
      r.recordId = u.recordId ∧ r.policyId = u.policyId ∧ r.policyId ≠ .null := by
  obtain ⟨text, ht⟩ := ht
  obtain ⟨policy, hp⟩ := hp
  obtain ⟨other, hq⟩ := hq
  rw [ProposalRow.rivals, Bool.and_eq_true, ht, hp, hq, Cell.text_clashes, clashes_ofInt?,
    eq_comm (a := u.recordId)]

/-- When a proposal cannot be added. -/
def Blocked (s : Store) (p : Proposal) : Prop :=
  (∃ r ∈ s.proposals, r.id = .text p.id.text) ∨
    p.status = .pending ∧ ∃ policy, p.policyId = some policy ∧ ∃ r ∈ s.proposals,
      r.status = .text Status.pending.name ∧ r.recordId = .text p.recordId ∧
        r.policyId = .integer policy

/-- A proposal does not fit beside a row that has its identifier or is its pending rival. -/
theorem not_fitsBeside_iff {s : Store} (hf : s.Filled) {p : Proposal} {r : ProposalRow}
    (hr : r ∈ s.proposals) :
    (ProposalRow.ofProposal p).fitsBeside r = false ↔
      r.id = .text p.id.text ∨
        (p.status = .pending ∧ ∃ policy, p.policyId = some policy ∧
          r.status = .text Status.pending.name ∧ r.recordId = .text p.recordId ∧
            r.policyId = .integer policy) := by
  have hrivals := rivals_iff (r := .ofProposal p) ⟨_, rfl⟩ ⟨_, rfl⟩ (hf.policyIds r hr)
  have hpending : (ProposalRow.ofProposal p).isPending = true ↔ p.status = .pending := by
    rw [isPending_iff, ProposalRow.ofProposal, Cell.text.injEq]
    exact ⟨name_injective, congrArg Status.name⟩
  have hid : (ProposalRow.ofProposal p).id.clashes r.id = true ↔ r.id = .text p.id.text :=
    Cell.text_clashes
  simp only [ProposalRow.fitsBeside, Bool.and_eq_false_iff, Bool.not_eq_false', Bool.and_eq_true,
    hid, hpending, isPending_iff, hrivals]
  refine or_congr_right ?_
  constructor
  · rintro ⟨⟨hp, hs⟩, ht, hpolicy, hknown⟩
    cases hk : p.policyId with
    | none =>
      refine absurd ?_ hknown
      simp only [ProposalRow.ofProposal, hk, Cell.ofInt?]
    | some policy =>
      refine ⟨hp, policy, rfl, hs, ht.symm, ?_⟩
      rw [← hpolicy]
      simp only [ProposalRow.ofProposal, hk, Cell.ofInt?]
  · rintro ⟨hp, policy, hk, hs, ht, hpolicy⟩
    have hcell : (ProposalRow.ofProposal p).policyId = .integer policy := by
      simp only [ProposalRow.ofProposal, hk, Cell.ofInt?]
    rw [hcell, hpolicy]
    exact ⟨⟨hp, hs⟩, ht.symm, rfl, by simp⟩

theorem insertProposal_of_blocked {s : Store} (hf : s.Filled) {p : Proposal} (h : s.Blocked p) :
    s.insertProposal p = (.ok false, s) := by
  rw [insertProposal_eq hf.hasProposals, if_neg]
  intro hall
  rw [List.all_eq_true] at hall
  rcases h with ⟨r, hr, hid⟩ | ⟨hp, policy, hk, r, hr, hrest⟩
  · have hno := (not_fitsBeside_iff hf hr).mpr (.inl hid)
    rw [hall r hr] at hno
    cases hno
  · have hno := (not_fitsBeside_iff hf hr).mpr (.inr ⟨hp, policy, hk, hrest⟩)
    rw [hall r hr] at hno
    cases hno

theorem insertProposal_of_not_blocked {s : Store} (hf : s.Filled) {p : Proposal}
    (h : ¬ s.Blocked p) :
    s.insertProposal p = (.ok true, { s with proposals := s.proposals ++ [.ofProposal p] }) := by
  rw [insertProposal_eq hf.hasProposals, if_pos]
  rw [List.all_eq_true]
  intro r hr
  by_contra hfits
  rw [Bool.not_eq_true, not_fitsBeside_iff hf hr] at hfits
  rcases hfits with hid | ⟨hp, policy, hk, hrest⟩
  · exact h (.inl ⟨r, hr, hid⟩)
  · exact h (.inr ⟨hp, policy, hk, r, hr, hrest⟩)

theorem Filled.insertProposal {s : Store} (hf : s.Filled) (p : Proposal) :
    (s.insertProposal p).2.Filled := by
  by_cases hb : s.Blocked p
  · rw [insertProposal_of_blocked hf hb]
    exact hf
  · have hready := hf.toReady.insertProposal p
    rw [insertProposal_of_not_blocked hf hb] at hready ⊢
    refine ⟨hready, ?_, ?_, ?_⟩
    · intro r hr
      rcases List.mem_append.mp hr with hr | hr
      · exact hf.recordIds r hr
      · exact ⟨p.recordId, by rw [List.mem_singleton.mp hr]; rfl⟩
    · intro r hr
      rcases List.mem_append.mp hr with hr | hr
      · exact hf.policyIds r hr
      · exact ⟨p.policyId, by rw [List.mem_singleton.mp hr]; rfl⟩
    · rw [List.pairwise_append]
      refine ⟨hf.single, List.pairwise_singleton .., ?_⟩
      intro r hr u hu hd
      rw [List.mem_singleton.mp hu] at hd
      -- a double of the new row would have kept it out
      have hp : p.status = .pending := name_injective (Cell.text.inj hd.pending')
      obtain ⟨policy, hpolicy⟩ : ∃ policy, p.policyId = some policy := by
        by_contra hno
        have hnone : p.policyId = none := by
          cases hk : p.policyId with
          | none => rfl
          | some policy => exact absurd ⟨policy, hk⟩ hno
        have hnull : (ProposalRow.ofProposal p).policyId = .null := by
          simp only [ProposalRow.ofProposal, hnone, Cell.ofInt?]
        exact hd.known (hd.policyId.trans hnull)
      have hcell : (ProposalRow.ofProposal p).policyId = .integer policy := by
        simp only [ProposalRow.ofProposal, hpolicy, Cell.ofInt?]
      exact hb (.inr ⟨hp, policy, hpolicy, r, hr, hd.pending, hd.recordId,
        hd.policyId.trans hcell⟩)

/-- No change of status makes a row pending. -/
theorem isPending_of_after {t : Transition} (he : t.source.canBecome t.target = true)
    {r : ProposalRow} (h : (r.after t).status = .text Status.pending.name) :
    r.status = .text Status.pending.name := by
  unfold ProposalRow.after at h
  split at h
  · have ht : t.target = .pending := name_injective (Cell.text.inj h)
    rw [ht, Status.not_canBecome_pending] at he
    cases he
  · exact h

theorem after_recordId (t : Transition) (r : ProposalRow) : (r.after t).recordId = r.recordId := by
  unfold ProposalRow.after
  split <;> rfl

theorem after_policyId (t : Transition) (r : ProposalRow) : (r.after t).policyId = r.policyId := by
  unfold ProposalRow.after
  split <;> rfl

/-- A change of status takes rows out of those that are pending, and puts none among them. -/
theorem Filled.changed {s s' : Store} (hf : s.Filled) (hr : s'.Ready) {t : Transition}
    (he : t.source.canBecome t.target = true)
    (hs : s'.proposals = s.proposals.map (·.after t)) : s'.Filled := by
  refine ⟨hr, ?_, ?_, ?_⟩
  · rw [hs]
    intro r hr
    obtain ⟨u, hu, rfl⟩ := List.mem_map.mp hr
    rw [after_recordId]
    exact hf.recordIds u hu
  · rw [hs]
    intro r hr
    obtain ⟨u, hu, rfl⟩ := List.mem_map.mp hr
    rw [after_policyId]
    exact hf.policyIds u hu
  · rw [hs]
    refine List.Pairwise.map _ (fun r u hno hd => hno ?_) hf.single
    have hrecord := hd.recordId
    have hpolicy := hd.policyId
    have hknown := hd.known
    rw [after_recordId, after_recordId] at hrecord
    rw [after_policyId, after_policyId] at hpolicy
    rw [after_policyId] at hknown
    exact ⟨isPending_of_after he hd.pending, isPending_of_after he hd.pending', hrecord, hpolicy,
      hknown⟩

theorem Filled.apply {s : Store} (hf : s.Filled) (o : Operation) : (o.apply s).Filled := by
  cases o with
  | insert p => exact hf.insertProposal p
  | change t =>
    have hready := hf.toReady.transition t
    rcases transition_cases s t with ⟨h, -⟩ | ⟨he, h⟩
    · rw [Operation.apply, h]
      exact hf
    · exact hf.changed hready he (by rw [Operation.apply, h]; rfl)
  | record t e =>
    have hready := hf.toReady.transitionWithEntry t e
    rcases transitionWithEntry_cases s t e with h | ⟨he, h⟩
    · rw [Operation.apply, h]
      exact hf
    · exact hf.changed hready he (by rw [Operation.apply, h]; rfl)

theorem Filled.afterAll {s : Store} (hf : s.Filled) (operations : List Operation) :
    (s.afterAll operations).Filled := by
  induction operations generalizing s with
  | nil => exact hf
  | cons o operations ih => exact ih (hf.apply o)

end Signoff.Store
