import Mathlib
import Signoff.Desk.Review
import Signoff.Proofs.Store.Operations
import Signoff.Proofs.Store.Storable

/-!
The proposals that are pending, as a set. Where every row can be read, a new proposal comes into the
set, one that moves goes out of it, and whoever asks for all that is pending gets the set, unless it
is more than a page.
-/

namespace Signoff.Store

/-- A row has a proposal: it reads as the proposal and stands under its identifier, and a zero that
it has for a confidence has no sign. -/
structure ProposalRow.Holds (r : ProposalRow) (p : Proposal) : Prop where
  reads : r.Reads p
  own : r.isOf p.id = true
  confidence : Cell.ofDouble p.confidence = .real p.confidence

/-- Every row has a proposal. -/
def Readable (s : Store) : Prop := ∀ r ∈ s.proposals, ∃ p, r.Holds p

/-- The proposals that are pending, as they are read. -/
def pendingSet (s : Store) : Set Proposal :=
  {p | ∃ r ∈ s.proposals, r.isPending = true ∧ r.read = .ok p}

variable {s : Store} {t : Transition} {p : Proposal} {r : ProposalRow}

theorem ProposalRow.Holds.eq {q : Proposal} (h : r.Holds p) (hq : r.read = .ok q) : q = p := by
  rw [read_ok.mpr h.reads] at hq
  exact (Except.ok.inj hq).symm

theorem holds_ofProposal (h : p.Storable) (hp : Cell.ofDouble p.confidence = .real p.confidence) :
    (ProposalRow.ofProposal p).Holds p := by
  have hreads := read_ofProposal h
  rw [Cell.real.inj hp] at hreads
  exact ⟨hreads, isOf_ofProposal.mpr rfl, hp⟩

theorem ProposalRow.Holds.apply (h : r.Holds p)
    (hnow : ∀ now, t.decidedAt = some now → now.Sortable) : (r.apply t).Holds (t.change p) :=
  ⟨h.reads.apply hnow, h.own, h.confidence⟩

theorem readable_empty : empty.Readable := fun _ h => nomatch h

theorem Readable.append (h : s.Readable) (hp : r.Holds p) :
    ({ s with proposals := s.proposals ++ [r] } : Store).Readable := by
  intro u hu
  rcases List.mem_append.mp hu with hu | hu
  · exact h u hu
  · exact ⟨p, List.mem_singleton.mp hu ▸ hp⟩

theorem Readable.changed (h : s.Readable) (hnow : ∀ now, t.decidedAt = some now → now.Sortable) :
    (s.changed t).Readable := by
  intro u hu
  obtain ⟨r, hr, rfl⟩ := List.mem_map.mp hu
  obtain ⟨p, hp⟩ := h r hr
  unfold ProposalRow.after
  split
  · exact ⟨t.change p, hp.apply hnow⟩
  · exact ⟨p, hp⟩

/-- A change of status cannot fail: it is made, or the proposal stands elsewhere. -/
theorem Readable.transition (hread : s.Readable) (hr : s.Ready)
    (he : t.source.canBecome t.target = true)
    (hnow : ∀ now, t.decidedAt = some now → now.Sortable) :
    s.transition t = (.ok none, s) ∨
      ∃ r p, s.rowOf t.id = some r ∧ r.status = .text t.source.name ∧ p.id = t.id ∧
        s.transition t = (.ok (some p), s.changed t) := by
  have heq := transition_eq hr.toKeyed hr.hasProposals he
  cases hrow : s.rowOf t.id with
  | none =>
    rw [hrow] at heq
    exact .inl heq
  | some r =>
    rw [hrow] at heq
    dsimp only at heq
    split_ifs at heq with hs
    · obtain ⟨hmem, hisOf⟩ := mem_of_rowOf hrow
      obtain ⟨p, hp⟩ := hread r hmem
      -- the row that was changed is read at once, and can be read as it could before
      rw [read_ok.mpr (hp.apply hnow).reads] at heq
      exact .inr ⟨r, t.change p, rfl, hs, eq_of_isOf hp.own hisOf, heq⟩
    · exact .inl heq

/-- With an entry a change of status is made together with it, or nothing is written. -/
theorem Readable.transitionWithEntry (hread : s.Readable) (hr : s.Ready) (e : Audit.Entry)
    (he : t.source.canBecome t.target = true)
    (hnow : ∀ now, t.decidedAt = some now → now.Sortable) :
    (∃ f, s.transitionWithEntry t e = (.error f, s)) ∨
      s.transitionWithEntry t e = (.ok false, s) ∨
      ∃ r, s.rowOf t.id = some r ∧ r.status = .text t.source.name ∧
        s.transitionWithEntry t e = (.ok true, s.changedWith t e) := by
  rcases hread.transition hr he hnow with ht | ⟨r, p, hrow, hs, -, ht⟩
  · exact .inr (.inl (by simp only [Store.transitionWithEntry, ht]))
  · have hledger : (s.changed t).schema.has .ledger = true := hr.hasLedger
    have hentry := insertEntry_eq hledger e
    split_ifs at hentry
    · refine .inr (.inr ⟨r, hrow, hs, ?_⟩)
      simp only [Store.transitionWithEntry, ht, hentry]
      rfl
    · exact .inl ⟨.query "insert_audit", by simp only [Store.transitionWithEntry, ht, hentry]⟩

/-! ### What writes do to the set -/

theorem pendingSet_of_proposals {s' : Store} (h : s'.proposals = s.proposals) :
    s'.pendingSet = s.pendingSet := by
  simp only [pendingSet, h]

theorem pendingSet_append (hp : (ProposalRow.ofProposal p).Holds p) (hstatus : p.status = .pending) :
    ({ s with proposals := s.proposals ++ [.ofProposal p] } : Store).pendingSet =
      insert p s.pendingSet := by
  have hpending : (ProposalRow.ofProposal p).isPending = true := by
    rw [isPending_iff, ProposalRow.ofProposal, hstatus]
  ext q
  rw [Set.mem_insert_iff]
  constructor
  · rintro ⟨r, hr, hrow, hq⟩
    rcases List.mem_append.mp hr with hr | hr
    · exact .inr ⟨r, hr, hrow, hq⟩
    · rw [List.mem_singleton.mp hr] at hq
      exact .inl (hp.eq hq)
  · rintro (rfl | ⟨r, hr, hrow, hq⟩)
    · exact ⟨_, List.mem_append_right _ (List.mem_singleton_self _), hpending, read_ok.mpr hp.reads⟩
    · exact ⟨r, List.mem_append_left _ hr, hrow, hq⟩

/-- A proposal that moved is not pending, and every other is pending if it was. -/
theorem pendingSet_changed (hk : s.Keyed) (hread : s.Readable)
    (he : t.source.canBecome t.target = true) (hrow : s.rowOf t.id = some r)
    (hs : r.status = .text t.source.name) :
    (s.changed t).pendingSet = {p ∈ s.pendingSet | p.id ≠ t.id} := by
  have htarget : t.target ≠ .pending := by
    intro h
    rw [h, Status.not_canBecome_pending] at he
    cases he
  ext q
  constructor
  · rintro ⟨u', hu', hpending, hq⟩
    obtain ⟨u, hu, rfl⟩ := List.mem_map.mp hu'
    obtain ⟨p, hp⟩ := hread u hu
    by_cases hid : u.isOf t.id = true
    · -- the row of the proposal that moved stands at the target
      have hur : u = r := Option.some.inj ((hk.rowOf_eq hu hid).symm.trans hrow)
      rw [hur, after_of_source (mem_of_rowOf hrow).2 hs, isPending_iff] at hpending
      exact absurd (name_injective (Cell.text.inj hpending)) htarget
    · rw [after_of_not_isOf hid] at hpending hq
      refine ⟨⟨u, hu, hpending, hq⟩, ?_⟩
      intro heq
      rw [← heq, hp.eq hq] at hid
      exact hid hp.own
  · rintro ⟨⟨u, hu, hpending, hq⟩, hne⟩
    obtain ⟨p, hp⟩ := hread u hu
    have hown : u.isOf q.id = true := by
      rw [hp.eq hq]
      exact hp.own
    exact ⟨u, List.mem_map.mpr ⟨u, hu, after_of_ne hown hne⟩, hpending, hq⟩

/-! ### What is read of the set -/

theorem mem_newestFirst {α : Type} {newer : α → α → Bool} {rows : List α} {a : α} :
    a ∈ newestFirst newer rows ↔ a ∈ rows := by
  rw [newestFirst, List.mem_mergeSort, List.mem_reverse]

end Signoff.Store
