import Mathlib
import Signoff.Proofs.Desk.Effect
import Signoff.Proofs.Store.Frame

/-!
What one step of a call writes. To proposals it may add one row at the end, and an old row either
stays as it is or is decided on, which does not happen once it is at its end; to the ledger it may add
one entry, together with the change of status that the entry is about.
-/

namespace Signoff

open Store

/-- The change of status that the next step of a call tries to make. -/
def Call.tries? (m : Moment) : Call → Option Transition
  | .review (.approve id reviewer) => some (Review.claim id reviewer m.now)
  | .review (.settle p _ o) => some (Review.ending p.id o)
  | .review (.dismiss p reviewer _) => some (Review.rejection p.id reviewer m.now)
  | _ => none

/-- The entry that the next step of a call tries to write. -/
def Call.entry? (m : Moment) : Call → Option Audit.Entry
  | .review (.settle p reviewer o) => some (.ofExecution m.fresh p (.ofReviewer reviewer) o m.now)
  | .review (.dismiss p reviewer reason) =>
    some (.ofRejection m.fresh p (.ofReviewer reviewer) reason m.now)
  | _ => none

/-- What a row can be after a step: its status goes on by one edge at most, a row that is still
pending and one that was at its end are untouched, and who decided is said only once. -/
structure Store.ProposalRow.Becomes (r r' : ProposalRow) : Prop where
  follows : r.Follows (Relation.ReflGen Edge) r'
  waiting : r'.status = .text Status.pending.name → r' = r
  ended : ∀ status : Status, status.isFinal = true → r.status = .text status.name → r' = r
  decided : r.status ≠ .text Status.pending.name → r'.decidedBy = r.decidedBy

variable {d : Desk} {m : Moment} {c : Call} {t : Transition}

theorem Store.ProposalRow.Becomes.refl (r : ProposalRow) : r.Becomes r :=
  ⟨.refl (fun _ => .refl) r, fun _ => rfl, fun _ _ _ => rfl, fun _ => rfl⟩

theorem Store.ProposalRow.Becomes.isOf {r r' : ProposalRow} (h : r.Becomes r') (id : Uuid) :
    r'.isOf id = r.isOf id := by
  have hfixed : r'.id = r.id := by
    have hcolumn := congrArg ProposalRow.id h.follows.fixed
    exact hcolumn
  rw [ProposalRow.isOf, ProposalRow.isOf, hfixed]

theorem Store.ProposalRow.Becomes.retryOf {r r' : ProposalRow} (h : r.Becomes r') :
    r'.retryOf = r.retryOf := by
  have hcolumn := congrArg ProposalRow.retryOf h.follows.fixed
  exact hcolumn

/-- The changes that steps try: a claim, an ending and a rejection. -/
inductive Call.Tries (m : Moment) : Call → Transition → Prop
  | claim (id : Uuid) (reviewer : Option String) :
    Tries m (.review (.approve id reviewer)) (Review.claim id reviewer m.now)
  | ending (p : Proposal) (reviewer : Option String) (o : Outcome) :
    Tries m (.review (.settle p reviewer o)) (Review.ending p.id o)
  | rejection (p : Proposal) (reviewer reason : Option String) :
    Tries m (.review (.dismiss p reviewer reason)) (Review.rejection p.id reviewer m.now)

theorem Call.tries_of_eq (h : c.tries? m = some t) : c.Tries m t := by
  unfold Call.tries? at h
  split at h
  · cases h
    exact .claim _ _
  · cases h
    exact .ending _ _ _
  · cases h
    exact .rejection _ _ _
  · cases h

/-- A change that is tried goes along the life of a proposal, and names no reviewer once the proposal
is decided on. -/
theorem tries?_edge (h : c.tries? m = some t) :
    t.source.canBecome t.target = true ∧ (t.source = .pending ∨ t.decidedBy = none) := by
  cases Call.tries_of_eq h with
  | claim id reviewer => exact ⟨rfl, .inl rfl⟩
  | ending p reviewer o =>
    refine ⟨?_, .inr rfl⟩
    simp only [Review.ending, Review.statusOf]
    split <;> rfl
  | rejection p reviewer reason => exact ⟨rfl, .inl rfl⟩

/-- A change that is tried is of the present moment. -/
theorem tries?_now (h : c.tries? m = some t) : ∀ now, t.decidedAt = some now → now = m.now := by
  intro now hnow
  cases Call.tries_of_eq h <;> cases hnow <;> rfl

/-- No error comes with a decision. -/
theorem tries?_error (h : c.tries? m = some t) (hs : t.source = .pending) : t.error = none := by
  cases Call.tries_of_eq h <;> first | rfl | cases hs

/-- What is approved is moved on by the call that has it. -/
theorem holds?_of_tries? (h : c.tries? m = some t) (hs : t.source = .approved) :
    c.holds? = some t.id := by
  cases Call.tries_of_eq h <;> first | rfl | cases hs

theorem becomes_after (h : c.tries? m = some t) (r : ProposalRow) : r.Becomes (r.after t) := by
  obtain ⟨hedge, hreviewer⟩ := tries?_edge h
  by_cases happlies : t.appliesTo r = true
  · obtain ⟨hid, hstatus⟩ := appliesTo_iff.mp happlies
    have hafter : r.after t = r.apply t := after_of_source hid hstatus
    refine ⟨follows_after hedge r, ?_, ?_, ?_⟩
    · -- no edge leads back to waiting
      intro hpending
      rw [hafter] at hpending
      have htarget : t.target = .pending := eq_of_name hpending
      rw [htarget, Status.not_canBecome_pending] at hedge
      cases hedge
    · -- and none leads on from the end
      intro status hfinal hs
      have hsource : t.source = status := eq_of_name (hstatus.symm.trans hs)
      rw [hsource, Status.canBecome_eq_false_of_isFinal hfinal] at hedge
      cases hedge
    · intro hne
      rcases hreviewer with hsource | hnone
      · rw [hstatus, hsource] at hne
        exact absurd rfl hne
      · rw [hafter, ProposalRow.apply, hnone]
        rfl
  · have hafter : r.after t = r := by
      rw [ProposalRow.after, if_neg happlies]
    rw [hafter]
    exact .refl r

/-- A call that moves a proposal on hands it to the executor, which leaves the store alone, or tries
its change, alone or together with its entry. -/
theorem store_moved (su : Setup) {id : Uuid} (hm : c.moves? = some id) :
    (c.step su m d).2.store = d.store ∨
      (∃ t, c.tries? m = some t ∧ (c.step su m d).2.store = (d.store.transition t).2) ∨
      ∃ t e, c.tries? m = some t ∧ c.entry? m = some e ∧
        (c.step su m d).2.store = (d.store.transitionWithEntry t e).2 := by
  unfold Call.moves? at hm
  split at hm
  · next id reviewer =>
    refine .inr (.inl ⟨_, rfl, ?_⟩)
    simp only [Call.step, approve_desk, Desk.on]
  · exact .inl rfl
  · next p reviewer o =>
    refine .inr (.inr ⟨_, _, rfl, rfl, ?_⟩)
    simp only [Call.step, settle_desk, Desk.on]
  · next p reviewer reason =>
    refine .inr (.inr ⟨_, _, rfl, rfl, ?_⟩)
    simp only [Call.step, dismiss_desk, Desk.on]
  · cases hm

/-- A step changes no row, or makes the change that its call tries, or adds the row of a proposal
that was not there. -/
theorem rows_step (su : Setup) (hr : d.store.Ready) (c : Call) :
    (c.step su m d).2.store.proposals = d.store.proposals ∨
      (∃ t, c.tries? m = some t ∧
        (c.step su m d).2.store.proposals = (d.store.changed t).proposals) ∨
      ∃ p, c.adds? m = some p ∧ d.store.insertProposal p = (.ok true, (c.step su m d).2.store) ∧
        (c.step su m d).2.store.proposals = d.store.proposals ++ [.ofProposal p] := by
  have heffect : Desk.Effect m d c (c.step su m d).2 := effect_step su c
  cases hm : c.moves? with
  | none =>
    generalize (c.step su m d).2 = d' at heffect
    cases heffect with
    | quiet _ _ _ h => exact .inl h.proposals
    | added p _ ha =>
      rcases insertProposal_cases hr p with hs | hs
      · exact .inl (by rw [hs])
      · exact .inr (.inr ⟨p, ha, by rw [hs], by rw [hs]⟩)
    | moved id _ hmoves _ _ _ =>
      rw [hm] at hmoves
      cases hmoves
  | some id =>
    rcases store_moved su hm with hs | ⟨t, ht, hs⟩ | ⟨t, e, ht, -, hs⟩
    · left
      rw [hs]
    · rw [hs]
      rcases transition_cases d.store t with ⟨hs, -⟩ | ⟨-, hs⟩
      · exact .inl (by rw [hs])
      · exact .inr (.inl ⟨t, ht, by rw [hs]⟩)
    · rw [hs]
      rcases transitionWithEntry_cases d.store t e with hs | ⟨-, hs⟩
      · exact .inl (by rw [hs])
      · exact .inr (.inl ⟨t, ht, by rw [hs]; rfl⟩)

theorem ledger_of_moves? {d' : Desk} (h : Desk.Effect m d c d') (hm : c.moves? = none) :
    d'.store.ledger = d.store.ledger := by
  cases h with
  | quiet _ _ _ h => exact h.ledger
  | added p _ _ => rcases insertProposal_store d.store p with h | h <;> rw [h]
  | moved id _ hmoves _ _ _ =>
    rw [hm] at hmoves
    cases hmoves

/-- A step adds nothing to the ledger, or it adds the entry of its call together with the change that
the call makes. -/
theorem ledger_cases (su : Setup) (hr : d.store.Ready) (c : Call) :
    (c.step su m d).2.store.ledger = d.store.ledger ∨
      ∃ t e, c.tries? m = some t ∧ c.entry? m = some e ∧ d.store.Recordable t e ∧
        (c.step su m d).2.store = d.store.changedWith t e := by
  cases hm : c.moves? with
  | none => exact .inl (ledger_of_moves? (effect_step su c) hm)
  | some id =>
    rcases store_moved su hm with hs | ⟨t, -, hs⟩ | ⟨t, e, ht, he, hs⟩
    · left
      rw [hs]
    · left
      rw [hs]
      rcases transition_cases d.store t with ⟨hs, -⟩ | ⟨-, hs⟩
      · rw [hs]
      · rw [hs, changed_ledger]
    · by_cases hok : (d.store.transitionWithEntry t e).1 = .ok true
      · right
        have hrecordable := recordable_of_ok hr.toKeyed hok
        refine ⟨t, e, ht, he, hrecordable, ?_⟩
        rw [hs, transitionWithEntry_of_recordable hr.toKeyed hrecordable]
      · left
        rw [hs, transitionWithEntry_of_not_ok hok]

section Places

variable (su : Setup) (hr : d.store.Ready) (c : Call) {i : ℕ} {r r' : ProposalRow}

include hr

/-- Every row keeps its place. -/
theorem row_kept (h : d.store.proposals[i]? = some r) :
    ∃ r', (c.step su m d).2.store.proposals[i]? = some r' ∧ r.Becomes r' := by
  rcases rows_step (m := m) su hr c with hp | ⟨t, ht, hp⟩ | ⟨p, -, -, hp⟩
  · exact ⟨r, hp ▸ h, .refl r⟩
  · refine ⟨r.after t, ?_, becomes_after ht r⟩
    rw [hp, changed, List.getElem?_map, h, Option.map_some]
  · refine ⟨r, ?_, .refl r⟩
    rw [hp, List.getElem?_append_left (List.getElem?_eq_some_iff.mp h).1, h]

/-- A row that is there after a step was there before it, or is the new one in the last place. -/
theorem row_origin (h : (c.step su m d).2.store.proposals[i]? = some r') :
    (∃ r, d.store.proposals[i]? = some r ∧ r.Becomes r') ∨
      ∃ p, c.adds? m = some p ∧ d.store.insertProposal p = (.ok true, (c.step su m d).2.store) ∧
        i = d.store.proposals.length ∧ r' = .ofProposal p := by
  by_cases hlt : i < d.store.proposals.length
  · obtain ⟨r, hi⟩ : ∃ r, d.store.proposals[i]? = some r := ⟨_, List.getElem?_eq_getElem hlt⟩
    obtain ⟨r'', hi', hbecomes⟩ := row_kept (m := m) su hr c hi
    rw [h, Option.some.injEq] at hi'
    exact .inl ⟨r, hi, hi' ▸ hbecomes⟩
  · right
    have hlt' : i < (c.step su m d).2.store.proposals.length := (List.getElem?_eq_some_iff.mp h).1
    rcases rows_step (m := m) su hr c with hp | ⟨t, ht, hp⟩ | ⟨p, ha, hs, hp⟩
    · rw [hp] at hlt'
      exact absurd hlt' hlt
    · rw [hp, changed, List.length_map] at hlt'
      exact absurd hlt' hlt
    · rw [hp, List.length_append, List.length_singleton] at hlt'
      have hi : i = d.store.proposals.length := by omega
      refine ⟨p, ha, hs, hi, ?_⟩
      rw [hp, hi, List.getElem?_concat_length, Option.some.injEq] at h
      exact h.symm

/-- A row at its end is never touched. -/
theorem row_ended {status : Status} (hfinal : status.isFinal = true)
    (hs : r.status = .text status.name) (h : d.store.proposals[i]? = some r) :
    (c.step su m d).2.store.proposals[i]? = some r := by
  obtain ⟨r', hi, hbecomes⟩ := row_kept (m := m) su hr c h
  rw [hi, hbecomes.ended status hfinal hs]

end Places

end Signoff
