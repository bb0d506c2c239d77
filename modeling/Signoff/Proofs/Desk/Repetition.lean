import Mathlib
import Signoff.Proofs.Desk.Simulation

/-!
A batch that comes a second time. After the first time each of its matches has a pending twin,
whether it was created then or dropped, and the policies are the same. So the second time decides
alike, drops every match, and leaves the desk as it is.
-/

namespace Signoff

/-- Nothing is left to be created for decisions: each match has a pending twin. -/
def Store.Covers (s : Store) (xs : List Decision) (now : Instant) : Prop :=
  ∀ x ∈ xs, ∀ f, x.found = some f → ∀ id, s.Awaits (.ofMatch id f now)

namespace Placing

variable {now : Instant} {d d' : Desk} {xs : List Decision} {tried created : List Proposal}

/-- What is waited for goes on being waited for. -/
theorem awaits (h : Placing now d xs tried created d') {p : Proposal} (hp : d.store.Awaits p) :
    d'.store.Awaits p := by
  obtain ⟨row, hrow, hwaits⟩ := hp
  refine ⟨row, ?_, hwaits⟩
  rw [h.desk_eq.1]
  exact List.mem_append_left _ hrow

/-- Once decisions were placed, none of them is left to be created. -/
theorem covers (h : Placing now d xs tried created d') : d'.store.Covers xs now := by
  -- which identifier a match would get does not matter to whether it is waited for
  have hany {s : Store} {f : Match} {id : Uuid} (id' : Uuid)
      (hawaits : s.Awaits (.ofMatch id f now)) : s.Awaits (.ofMatch id' f now) := hawaits
  induction h with
  | nil d => exact fun x hx => absurd hx List.not_mem_nil
  | unmatched hx rest ih =>
    intro y hy f hf
    rcases List.mem_cons.mp hy with rfl | hy
    · rw [hx] at hf
      cases hf
    · exact ih y hy f hf
  | duplicate id hx hawaits rest ih =>
    intro y hy f hf id'
    rcases List.mem_cons.mp hy with rfl | hy
    · rw [hx] at hf
      cases hf
      exact hany id' (rest.awaits hawaits)
    · exact ih y hy f hf id'
  | @created d d' x xs tried created f id hx hno rest ih =>
    intro y hy f' hf id'
    rcases List.mem_cons.mp hy with rfl | hy
    · rw [hx] at hf
      cases hf
      have htwin : (Proposal.ofMatch id f now).Twin (.ofMatch id f now) := ⟨rfl, rfl⟩
      have hwaits : (d.propose (.ofMatch id f now)).store.Awaits (.ofMatch id f now) :=
        (awaits_propose rfl).mpr (.inr htwin)
      exact hany id' (rest.awaits hwaits)
    · exact ih y hy f' hf id'

end Placing

/-- A match for which a twin is pending is kept out under any identifier. -/
theorem blocked_of_awaits {s : Store} {id : Uuid} {f : Match} {now : Instant}
    (h : s.Awaits (.ofMatch id f now)) : s.Blocked (.ofMatch id f now) := by
  obtain ⟨row, hrow, hstatus, hrecord, hpolicy⟩ := h
  exact .inr ⟨rfl, f.policyId, rfl, row, hrow, hstatus, hrecord, hpolicy⟩

/-- Decisions of which nothing is left to be created are counted, and the desk stays as it is. -/
theorem Call.runFor_covered (su : Setup) (moments : Nat → Moment) {d : Desk} (n first : Nat)
    (xs : List Decision) (now : Instant) (r : Intake.Report) (hf : d.store.Filled)
    (hn : xs.length + 1 ≤ n) (hcovers : d.store.Covers xs now) :
    ∃ tried, runFor su moments n first (.intake (.place xs now r)) d =
        (.intake (.done (.ok (r.after xs tried []))), d) ∧ Placing now d xs tried [] d := by
  -- over the decisions; the desk stays the same, and only the report goes on
  induction xs generalizing n first r with
  | nil =>
    obtain ⟨n, rfl⟩ : ∃ k, n = k + 1 := ⟨n - 1, by omega⟩
    refine ⟨[], ?_, .nil d⟩
    rw [Intake.Report.after_nil]
    exact runFor_of_isDone su moments n (first + 1) (c := .intake (.done (.ok r))) d rfl
  | cons x xs ih =>
    obtain ⟨n, rfl⟩ : ∃ k, n = k + 1 := ⟨n - 1, by omega⟩
    rw [List.length_cons] at hn
    have hrest : d.store.Covers xs now := fun y hy => hcovers y (List.mem_cons_of_mem _ hy)
    cases hx : x.found with
    | none =>
      obtain ⟨tried, hrun, hplacing⟩ := ih n (first + 1) (r.unmatchedBy x) (by omega) hrest
      refine ⟨tried, ?_, .unmatched hx hplacing⟩
      rw [runFor_succ, step_unmatched hx, hrun, Intake.Report.after_unmatched hx]
    | some f =>
      have hawaits := hcovers x List.mem_cons_self f hx (moments first).fresh
      obtain ⟨tried, hrun, hplacing⟩ := ih n (first + 1) (r.duplicatedBy x) (by omega) hrest
      refine ⟨_ :: tried, ?_, .duplicate (moments first).fresh hx hawaits hplacing⟩
      rw [runFor_succ, step_duplicated su xs r hf hx (blocked_of_awaits hawaits), hrun,
        Intake.Report.after_duplicated hx _ (Nat.zero_le _)]

/-- What a report on a batch says when the batch comes again: nothing is created any more, and what
was created or dropped before is dropped. -/
structure Intake.Report.Repeats (r' r : Intake.Report) : Prop where
  created : r'.created = []
  duplicates : r'.duplicates = r.created.length + r.duplicates
  unmatched : r'.unmatched = r.unmatched
  anomalies : r'.anomalies = r.anomalies

/-- Placing the same decisions again is counted as the repetition of the first time. -/
theorem Placing.repeats {now : Instant} {d d' : Desk} {xs : List Decision}
    {tried created tried' : List Proposal} (h : Placing now d xs tried created d')
    (h' : Placing now d' xs tried' [] d') :
    (Intake.Report.empty.after xs tried' []).Repeats (Intake.Report.empty.after xs tried created) := by
  have hle : created.length ≤ tried.length := h.sublist.length_le
  -- both times every decision with a match tries one proposal
  have hlength := h.length
  have hlength' := h'.length
  refine ⟨rfl, ?_, rfl, rfl⟩
  simp only [Intake.Report.after, Intake.Report.empty, List.length_nil, List.nil_append]
  omega

/-- The policies and the instant settle what a batch is decided to be. -/
theorem Call.step_batch {d : Desk} {policies : List Policy} (su : Setup) (m : Moment)
    (records : List Record) (h : d.store.listPolicies true = .ok policies) :
    step su m d (.intake (.batch records)) =
      (.intake (.place (Decision.decideAll su.floor records policies m.now) m.now .empty), d) := by
  simp only [step, Intake.step, h]

/-- A batch that comes again as of the same instant, with nothing done between, is decided alike and
counted as the repetition of the first time. It creates nothing, and leaves the desk as it is: the
store, and what was told and carried out. -/
theorem intake_repeated {d : Desk} (hd : d.Reachable) (su : Setup) (moments : Nat → Moment)
    (first second : Nat) (records : List Record)
    (hfresh : Fresh (stretch moments first (Intake.batch records).left) d.store)
    (hnow : (moments second).now = (moments first).now) :
    ∃ (r r' : Intake.Report) (d' : Desk),
      Call.run su moments first (.intake (.batch records)) d = (.intake (.done (.ok r)), d') ∧
      Call.run su moments second (.intake (.batch records)) d' = (.intake (.done (.ok r')), d') ∧
      r'.Repeats r := by
  have hschema : d.store.schema.has .policies = true := by
    rw [hd.schema]
    decide
  obtain ⟨policies, hlist⟩ := listPolicies_ok hschema true
  let xs := Decision.decideAll su.floor records policies (moments first).now
  have hcount : xs.length = records.length := List.length_map _
  have hleft : (Intake.batch records).left = 2 * records.length + 1 + 1 := rfl
  -- the step that reads the policies adds nothing, so its identifier is not used
  rw [hleft, stretch_succ] at hfresh
  obtain ⟨tried, created, d', -, hrun, hplacing⟩ := Call.runFor_place su xs (moments first).now
    .empty hd.filled (by omega) hfresh.tail
  have hpolicies : d'.store.listPolicies true = .ok policies := by
    rw [hplacing.desk_eq.1]
    exact hlist
  have hfilled : d'.store.Filled := by
    have hafter := filled_runFor su moments (2 * records.length + 1) (first + 1)
      (.intake (.place xs (moments first).now .empty)) hd.filled
    rwa [hrun] at hafter
  obtain ⟨tried', hrun', hplacing'⟩ := Call.runFor_covered su moments (2 * records.length + 1)
    (second + 1) xs (moments first).now .empty hfilled (by omega) hplacing.covers
  refine ⟨_, _, d', ?_, ?_, hplacing.repeats hplacing'⟩
  · change Call.runFor su moments (2 * records.length + 1 + 1) first _ d = _
    rw [Call.runFor_succ, Call.step_batch su _ records hlist, hrun]
  · change Call.runFor su moments (2 * records.length + 1 + 1) second _ d' = _
    rw [Call.runFor_succ, Call.step_batch su _ records hpolicies, hnow]
    exact hrun'

/-- The batch names one record twice, and another one that has a proposal already. -/
theorem intake_repeated_sample :
    sampleNoon.Reachable ∧ Fresh (stretch sampleMoments 5 10) sampleNoon.store ∧
    ∃ (r r' : Intake.Report) (d' : Desk),
      Call.run (sampleTurn 0 0).setup sampleMoments 5 (.intake (.batch sampleRecords)) sampleNoon =
        (.intake (.done (.ok r)), d') ∧
      Call.run (sampleTurn 0 0).setup sampleMoments 15 (.intake (.batch sampleRecords)) d' =
        (.intake (.done (.ok r')), d') ∧
      r'.Repeats r ∧ d'.store.proposals.map (·.recordId) = [.text "m-1", .text "m-2"] := by
  have hreachable : sampleNoon.Reachable := ⟨sampleMorning, _, rfl⟩
  obtain ⟨r, r', d', hrun, hrun', hrepeats⟩ := intake_repeated hreachable (sampleTurn 0 0).setup
    sampleMoments 5 15 sampleRecords fresh_sampleMoments rfl
  have hrows : (Call.run (sampleTurn 0 0).setup sampleMoments 5 (.intake (.batch sampleRecords))
      sampleNoon).2.store.proposals.map (·.recordId) = [.text "m-1", .text "m-2"] := by
    decide +kernel
  rw [hrun] at hrows
  exact ⟨hreachable, fresh_sampleMoments, r, r', d', hrun, hrun', hrepeats, hrows⟩

end Signoff
