import Mathlib
import Signoff.Proofs.Desk.Trail

/-!
Where retries come from. A proposal that tries another one again is a copy of it, made after that one
had failed and placed below it in the table; a failed proposal stays as it is. So whoever asks what a
proposal tries again, and what that one tries again, comes after finitely many failed copies to a
proposal that a batch took in.
-/

namespace Signoff

open Store Json

/-- A proposal proposes the same as another, for the same reason. -/
structure Proposal.Copies (p q : Proposal) : Prop where
  recordId : p.recordId = q.recordId
  summary : p.summary = q.summary
  actionType : p.actionType = q.actionType
  params : p.params = q.params
  policyId : p.policyId = q.policyId
  confidence : p.confidence = q.confidence
  rationale : p.rationale = q.rationale

/-- Whoever looks up the proposal that this one tries again, and the one that this tries again, and so
on, finds these, and the last of them tries nothing again. -/
inductive Store.Lineage (s : Store) : Proposal → List Proposal → Prop
  | original {p : Proposal} (h : p.retryOf = none) : Lineage s p []
  | again {p q : Proposal} {rest : List Proposal} (h : p.retryOf = some q.id)
    (hfound : s.getProposal q.id = .ok (some q)) (hrest : Lineage s q rest) :
    Lineage s p (q :: rest)

/-- A batch reports the proposal as new. -/
def TakenIn (start : List Call) (t : Traffic) (id : Uuid) : Prop :=
  ∃ i records, start[i]? = some (.intake (.batch records)) ∧ id ∈ reportsOf start t i

/-- How a row came into its place: a batch took it in, or it is a copy of a failed one above it. -/
inductive Origin (start : List Call) (t : Traffic) (i : ℕ) (r : ProposalRow) : Prop
  | taken (id : Uuid) (hid : r.isOf id = true) (hretry : r.retryOf = .null)
    (h : TakenIn start t id)
  | copied (j : ℕ) (r₀ : ProposalRow) (q : Proposal) (id : Uuid) (hj : j < i)
    (h₀ : t.desk.store.proposals[j]? = some r₀) (hreads : r₀.Reads q) (hfailed : q.status = .failed)
    (hretry : r.retryOf = .text q.id.text) (hcopy : r.Describes { q with id := id })

/-- A call that is about to add a retry has it from the row of a failed proposal. -/
def Call.Founded (s : Store) : Call → Prop
  | .review (.renew p) => ∃ (j : ℕ) (r₀ : ProposalRow) (q : Proposal) (id : Uuid) (now : Instant),
    s.proposals[j]? = some r₀ ∧ r₀.Reads q ∧ q.status = .failed ∧ p = q.retried id now
  | _ => True

variable {start : List Call} {t : Traffic} {x : Turn} {d : Desk} {m : Moment} {c : Call}
  {p q : Proposal} {r r' : ProposalRow}

theorem Proposal.Copies.trans {o : Proposal} (h : p.Copies q) (h' : q.Copies o) : p.Copies o :=
  ⟨h.recordId.trans h'.recordId, h.summary.trans h'.summary, h.actionType.trans h'.actionType,
    h.params.trans h'.params, h.policyId.trans h'.policyId, h.confidence.trans h'.confidence,
    h.rationale.trans h'.rationale⟩

/-- What one row describes proposes the same. -/
theorem Store.ProposalRow.Describes.copies {id : Uuid} (hp : r.Describes p)
    (hq : r.Describes { q with id := id }) : p.Copies q := by
  rw [hq.eq hp]
  exact ⟨rfl, rfl, rfl, rfl, rfl, rfl, rfl⟩

/-- There is one answer at each step of looking up. -/
theorem Store.Lineage.unique {s : Store} {chain other : List Proposal} (h : s.Lineage p chain)
    (h' : s.Lineage p other) : other = chain := by
  induction h generalizing other with
  | original hnone =>
    cases h' with
    | original _ => rfl
    | again hsome _ _ =>
      rw [hnone] at hsome
      cases hsome
  | again hsome hfound _ ih =>
    cases h' with
    | original hnone =>
      rw [hnone] at hsome
      cases hsome
    | again hsome' hfound' hrest' =>
      -- both name one identifier, and under it one proposal is found
      rw [hsome, Option.some.injEq] at hsome'
      rw [← hsome', hfound, Except.ok.injEq, Option.some.injEq] at hfound'
      subst hfound'
      rw [ih hrest']

/-- A failed proposal stays where it is, whatever is done. -/
theorem Call.Founded.step {u : Call} (su : Setup) (hr : d.store.Ready) (h : u.Founded d.store)
    (c : Call) : u.Founded (c.step su m d).2.store := by
  rcases u with r | i | a | o | o
  · cases r with
    | renew p =>
      obtain ⟨j, r₀, q, id, now, h₀, hreads, hfailed, hp⟩ := h
      have hstatus : r₀.status = .text Status.failed.name := hfailed ▸ hreads.status
      exact ⟨j, r₀, q, id, now, row_ended su hr c rfl hstatus h₀, hreads, hfailed, hp⟩
    | _ => trivial
  all_goals trivial

theorem TakenIn.step {id : Uuid} (h : TakenIn start t id) (ha : Accounted start t) (x : Turn) :
    TakenIn start (t.step x) id := by
  obtain ⟨i, records, hi, hmem⟩ := h
  exact ⟨i, records, hi, ha.reports_step x i hmem⟩

/-- What holds of proposals among calls that began together on an empty desk. -/
structure Lineal (start : List Call) (t : Traffic) : Prop where
  accounted : Accounted start t
  rounded : t.desk.store.Rounded
  founded : ∀ c ∈ t.calls, c.Founded t.desk.store
  origins : ∀ (i : ℕ) (r : ProposalRow), t.desk.store.proposals[i]? = some r → Origin start t i r

/-- The row that a proposal was read from is the one under its identifier. -/
theorem Accounted.rowOf (h : Accounted start t) (hr : r ∈ t.desk.store.proposals)
    (hreads : r.Reads p) : r.isOf p.id = true ∧ t.desk.store.rowOf p.id = some r := by
  obtain ⟨id, -, hid, -⟩ := h.tally.once r.id (List.mem_map_of_mem hr)
  have hisOf := isOf_iff.mpr hid
  rw [hreads.id_eq hisOf]
  exact ⟨hisOf, h.ready.toKeyed.rowOf_eq hr hisOf⟩

/-- The proposal in a row either tries nothing again and was taken in, or tries again one that is read
from a row above. -/
theorem Lineal.cases {i : ℕ} (h : Lineal start t) (hi : t.desk.store.proposals[i]? = some r)
    (hreads : r.Reads p) :
    (p.retryOf = none ∧ TakenIn start t p.id) ∨
      ∃ j < i, ∃ r₀ q, t.desk.store.proposals[j]? = some r₀ ∧ r₀.Reads q ∧
        p.retryOf = some q.id ∧ q.status = .failed ∧ p.Copies q := by
  obtain ⟨hisOf, -⟩ := h.accounted.rowOf (List.mem_of_getElem? hi) hreads
  have hretryOf := hreads.retryOf
  cases h.origins i r hi with
  | taken id hid hretry htaken =>
    left
    rw [hretry] at hretryOf
    rw [eq_of_isOf hisOf hid]
    exact ⟨(Except.ok.inj hretryOf).symm, htaken⟩
  | copied j r₀ q id hj h₀ hreads₀ hfailed hretry hcopy =>
    right
    have hid : p.retryOf = some q.id := by
      have hread : readOptional readUuid (.text q.id.text) = .ok (some q.id) := by
        simp only [readOptional, Cell.text?, readUuid_ok.mpr (Uuid.ofText?_text q.id), Except.map]
      rw [hretry, hread, Except.ok.injEq] at hretryOf
      exact hretryOf.symm
    exact ⟨j, hj, r₀, q, h₀, hreads₀, hid, hfailed, (hreads.describes hisOf).copies hcopy⟩

end Signoff
