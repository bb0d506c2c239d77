import Signoff.Proofs.Store.Keys

/-!
Changes of status that are put on record. The change and its entry are made both or neither, and
`Recordable` says exactly when they are made; whatever else the tables hold, and wherever the call
breaks off, a change that is not made leaves no trace.
-/

namespace Signoff.Store

/-- When a change of status is made and put on record. -/
structure Recordable (s : Store) (t : Transition) (e : Audit.Entry) : Prop where
  edge : t.source.canBecome t.target = true
  proposals : s.schema.has .proposals = true
  ledger : s.schema.has .ledger = true
  /-- The proposal stands where it is expected, and reads well after the change. -/
  row : ∃ r p, s.rowOf t.id = some r ∧ r.status = .text t.source.name ∧ (r.apply t).read = .ok p
  fresh : ∀ f ∈ s.ledger, f.id ≠ .text e.id.text

/-- What a recorded change does: one row changes in the columns of the decision, and one entry
comes last. -/
structure Recorded (s s' : Store) (t : Transition) (e : Audit.Entry)
    (before after : List ProposalRow) (r r' : ProposalRow) : Prop where
  rows : s.proposals = before ++ r :: after
  rows' : s'.proposals = before ++ r' :: after
  id : r.id = .text t.id.text
  others : ∀ u ∈ before ++ after, u.id ≠ .text t.id.text
  source : r.status = .text t.source.name
  status : r'.status = .text t.target.name
  error : r'.error = .ofText? t.error
  decidedBy : r'.decidedBy = t.decidedBy.elim r.decidedBy .text
  decidedAt : r'.decidedAt = t.decidedAt.elim r.decidedAt instantCell
  kept : { r' with status := r.status, error := r.error, decidedBy := r.decidedBy
                   decidedAt := r.decidedAt } = r
  ledger : s'.ledger = s.ledger ++ [.ofEntry e]
  policies : s'.policies = s.policies
  lastPolicy : s'.lastPolicy = s.lastPolicy
  schema : s'.schema = s.schema

/-- The store after a change of status and its entry. -/
def changedWith (s : Store) (t : Transition) (e : Audit.Entry) : Store :=
  { s.changed t with ledger := s.ledger ++ [.ofEntry e] }

theorem transitionWithEntry_of_recordable {s : Store} (hk : s.Keyed) {t : Transition}
    {e : Audit.Entry} (h : s.Recordable t e) :
    s.transitionWithEntry t e = (.ok true, s.changedWith t e) := by
  obtain ⟨r, p, hrow, hstatus, hread⟩ := h.row
  have ht : s.transition t = (.ok (some p), s.changed t) := by
    rw [transition_eq hk h.proposals h.edge, hrow]
    simp only [hstatus, if_true, hread]
    rfl
  have he : (s.changed t).insertEntry e =
      (.ok (), { s.changed t with ledger := s.ledger ++ [.ofEntry e] }) := by
    rw [insertEntry_eq (s := s.changed t) h.ledger, changed_ledger, if_pos h.fresh]
  simp only [transitionWithEntry, ht, he, changedWith]

/-- Only a change that is recordable is answered with yes. -/
theorem recordable_of_ok {s : Store} (hk : s.Keyed) {t : Transition} {e : Audit.Entry}
    (h : (s.transitionWithEntry t e).1 = .ok true) : s.Recordable t e := by
  unfold transitionWithEntry at h
  split at h
  · cases h
  · cases h
  · next p s' ht =>
    obtain ⟨he, hp, hrow, rfl⟩ := transition_some hk ht
    obtain ⟨r, hr, hs, hread⟩ := hrow
    have hl : s.schema.has .ledger = true := by
      by_contra hl
      simp [insertEntry, requires, hl] at h
    rw [insertEntry_eq (s := s.changed t) hl, changed_ledger] at h
    split_ifs at h with hf
    exact ⟨he, hp, hl, ⟨r, p, hr, hs, hread⟩, hf⟩

/-- Without a yes nothing was changed, whichever way the call ended. -/
theorem transitionWithEntry_of_not_ok {s : Store} {t : Transition} {e : Audit.Entry}
    (h : (s.transitionWithEntry t e).1 ≠ .ok true) : (s.transitionWithEntry t e).2 = s := by
  unfold transitionWithEntry at h ⊢
  split
  · rfl
  · rfl
  · next p s' ht =>
    rw [ht] at h
    dsimp only at h ⊢
    split
    · rfl
    · next he =>
      rw [he] at h
      exact absurd rfl h

theorem keyed_transitionWithEntry {s : Store} (hk : s.Keyed) (t : Transition) (e : Audit.Entry) :
    (s.transitionWithEntry t e).2.Keyed := by
  by_cases h : (s.transitionWithEntry t e).1 = .ok true
  · have hr := recordable_of_ok hk h
    rw [transitionWithEntry_of_recordable hk hr]
    refine ⟨(hk.changed t).proposals, ?_⟩
    simp only [changedWith]
    rw [List.pairwise_append]
    refine ⟨hk.ledger, List.pairwise_singleton .., fun f hf g hg => ?_⟩
    rw [List.mem_singleton.mp hg, Cell.clashes_comm, Bool.eq_false_iff]
    exact fun hc => hr.fresh f hf (Cell.text_clashes.mp hc)
  · rw [transitionWithEntry_of_not_ok h]
    exact hk

theorem changed_rows {s : Store} (hk : s.Keyed) {t : Transition} {r : ProposalRow}
    (hr : s.rowOf t.id = some r) (hs : r.status = .text t.source.name) :
    ∃ before after, s.proposals = before ++ r :: after ∧
      (∀ u ∈ before ++ after, u.id ≠ .text t.id.text) ∧
      (s.changed t).proposals = before ++ r.apply t :: after := by
  obtain ⟨hmem, hid⟩ := mem_of_rowOf hr
  obtain ⟨before, after, hrows⟩ := List.append_of_mem hmem
  have hp := hk.proposals
  rw [hrows, List.pairwise_append, List.pairwise_cons] at hp
  -- identifiers are unique in the table, so that the change finds this row only
  have hothers : ∀ u ∈ before ++ after, u.isOf t.id = false := by
    intro u hu
    rcases List.mem_append.mp hu with hu | hu
    · refine not_isOf_of_not_clashes ?_ hid
      rw [Cell.clashes_comm]
      exact hp.2.2 u hu r (List.mem_cons_self ..)
    · exact not_isOf_of_not_clashes (hp.2.1.1 u hu) hid
  have hafter : ∀ u ∈ before ++ after, u.after t = u := by
    intro u hu
    apply after_of_not_isOf
    rw [hothers u hu]
    exact Bool.false_ne_true
  refine ⟨before, after, hrows, fun u hu h => ?_, ?_⟩
  · rw [← isOf_iff, hothers u hu] at h
    cases h
  · rw [changed, hrows, List.map_append, List.map_cons, after_of_source hid hs,
      List.map_congr_left (fun u hu => hafter u (List.mem_append_left _ hu)),
      List.map_congr_left (fun u hu => hafter u (List.mem_append_right _ hu)), List.map_id',
      List.map_id']

/-- An audited change of status is made in full or not at all, and it is made exactly when it is
recordable: whatever the tables hold, the rows that cannot be read included. -/
theorem transitionWithEntry_all_or_nothing {s : Store} (hk : s.Keyed) (t : Transition)
    (e : Audit.Entry) :
    (s.Recordable t e ∧ (s.transitionWithEntry t e).1 = .ok true ∧
      ∃ before after r r',
        Recorded s (s.transitionWithEntry t e).2 t e before after r r') ∨
    (¬ s.Recordable t e ∧ (s.transitionWithEntry t e).1 ≠ .ok true ∧
      (s.transitionWithEntry t e).2 = s) := by
  by_cases h : (s.transitionWithEntry t e).1 = .ok true
  · have hrec := recordable_of_ok hk h
    obtain ⟨r, p, hr, hs, -⟩ := hrec.row
    obtain ⟨before, after, hrows, hothers, hchanged⟩ := changed_rows hk hr hs
    refine .inl ⟨hrec, h, before, after, r, r.apply t, ?_⟩
    rw [transitionWithEntry_of_recordable hk hrec]
    have hid := isOf_iff.mp (mem_of_rowOf hr).2
    exact { rows := hrows, rows' := hchanged, id := hid, others := hothers, source := hs
            status := rfl, error := rfl
            decidedBy := by cases hb : t.decidedBy <;> simp [ProposalRow.apply, orKept, hb]
            decidedAt := by
              cases ha : t.decidedAt <;> simp [ProposalRow.apply, orKept, ha, instantCell]
            kept := rfl, ledger := rfl, policies := rfl, lastPolicy := rfl, schema := rfl }
  · refine .inr ⟨fun hrec => h ?_, h, transitionWithEntry_of_not_ok h⟩
    rw [transitionWithEntry_of_recordable hk hrec]

/-- A proposal that waits for a decision, for use in examples. -/
def sampleProposal : Proposal where
  id := .nil
  recordId := "m-1"
  summary := [("sender", .str "a@b.c")]
  actionType := "archive"
  params := .obj []
  policyId := some 1
  confidence := .half
  rationale := "r"
  status := .pending
  created := ⟨2026, 60, 0, 0⟩
  decidedAt := none
  decidedBy := none
  error := none
  retryOf := none

/-- A store with one pending proposal, for use in examples. -/
def sampleStore : Store := (empty.insertProposal sampleProposal).2

theorem keyed_sampleStore : sampleStore.Keyed := keyed_insertProposal keyed_empty _

def sampleRejection : Transition :=
  ⟨.nil, .pending, .rejected, some "ann", some ⟨2026, 61, 0, 0⟩, none⟩

def sampleEntry : Audit.Entry :=
  .ofRejection .nil sampleProposal (.ofReviewer (some "ann")) none ⟨2026, 61, 0, 0⟩

theorem recordable_sample : sampleStore.Recordable sampleRejection sampleEntry where
  edge := rfl
  proposals := by decide
  ledger := by decide
  row := by
    have hread : ((ProposalRow.ofProposal sampleProposal).apply sampleRejection).read.toBool :=
      by decide +kernel
    cases hr : ((ProposalRow.ofProposal sampleProposal).apply sampleRejection).read with
    | ok p => exact ⟨_, p, by decide +kernel, by decide +kernel, hr⟩
    | error e => simp [hr, Except.toBool] at hread
  fresh := by decide

theorem transitionWithEntry_all_or_nothing_sample :
    sampleStore.Keyed ∧ sampleStore.Recordable sampleRejection sampleEntry ∧
      ∃ before after r r', Recorded sampleStore
        (sampleStore.transitionWithEntry sampleRejection sampleEntry).2 sampleRejection sampleEntry
        before after r r' := by
  refine ⟨keyed_sampleStore, recordable_sample, ?_⟩
  rcases transitionWithEntry_all_or_nothing keyed_sampleStore sampleRejection sampleEntry with
    ⟨-, -, h⟩ | ⟨h, -⟩
  · exact h
  · exact absurd recordable_sample h

end Signoff.Store
