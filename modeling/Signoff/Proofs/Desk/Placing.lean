import Mathlib
import Signoff.Proofs.Desk.Effect
import Signoff.Proofs.Store.PendingUniqueness

/-!
How the matches of a batch are placed. One after the other they are tried: a match whose record has
a pending proposal by the same policy is dropped, any other is added and told of. `Placing` says so
decision by decision, and a batch that nothing breaks in on does just that.
-/

namespace Signoff

/-- Two proposals about one record, by one policy. -/
def Proposal.Twin (p q : Proposal) : Prop := p.recordId = q.recordId ∧ p.policyId = q.policyId

/-- Whether a pending proposal about the same record, by the same policy, is in the store. -/
def Store.Awaits (s : Store) (p : Proposal) : Prop :=
  ∃ r ∈ s.proposals, r.status = .text Status.pending.name ∧ r.recordId = .text p.recordId ∧
    r.policyId = .ofInt? p.policyId

/-- The desk after a proposal was added and told of. -/
def Desk.propose (d : Desk) (p : Proposal) : Desk :=
  { d with
    store := { d.store with proposals := d.store.proposals ++ [.ofProposal p] }
    told := d.told ++ [.proposed p] }

/-- How decisions are placed: the desk before, the decisions, the proposals that are tried, those
that are created, and the desk after. -/
inductive Placing (now : Instant) :
    Desk → List Decision → List Proposal → List Proposal → Desk → Prop
  | nil (d : Desk) : Placing now d [] [] [] d
  | unmatched {d d' : Desk} {x : Decision} {xs : List Decision} {tried created : List Proposal}
    (hx : x.found = none) (rest : Placing now d xs tried created d') :
    Placing now d (x :: xs) tried created d'
  | duplicate {d d' : Desk} {x : Decision} {xs : List Decision} {tried created : List Proposal}
    {f : Match} (id : Uuid) (hx : x.found = some f) (h : d.store.Awaits (.ofMatch id f now))
    (rest : Placing now d xs tried created d') :
    Placing now d (x :: xs) (.ofMatch id f now :: tried) created d'
  | created {d d' : Desk} {x : Decision} {xs : List Decision} {tried created : List Proposal}
    {f : Match} (id : Uuid) (hx : x.found = some f) (h : ¬d.store.Awaits (.ofMatch id f now))
    (rest : Placing now (d.propose (.ofMatch id f now)) xs tried created d') :
    Placing now d (x :: xs) (.ofMatch id f now :: tried) (.ofMatch id f now :: created) d'

theorem ofInt?_injective {a b : Option Int} (h : Store.Cell.ofInt? a = Store.Cell.ofInt? b) :
    a = b := by
  cases a <;> cases b <;> simp_all [Store.Cell.ofInt?]

/-- A new proposal is waited for in place of its twins. -/
theorem awaits_propose {d : Desk} {p q : Proposal} (hp : p.status = .pending) :
    (d.propose p).store.Awaits q ↔ d.store.Awaits q ∨ p.Twin q := by
  have hrow : ((Store.ProposalRow.ofProposal p).status = .text Status.pending.name ∧
      (Store.ProposalRow.ofProposal p).recordId = .text q.recordId ∧
      (Store.ProposalRow.ofProposal p).policyId = .ofInt? q.policyId) ↔ p.Twin q := by
    constructor
    · rintro ⟨-, hrecord, hpolicy⟩
      exact ⟨Store.Cell.text.inj hrecord, ofInt?_injective hpolicy⟩
    · rintro ⟨hrecord, hpolicy⟩
      refine ⟨?_, ?_, ?_⟩
      · rw [Store.ProposalRow.ofProposal, hp]
      · rw [Store.ProposalRow.ofProposal, hrecord]
      · rw [Store.ProposalRow.ofProposal, hpolicy]
  simp only [Store.Awaits, Desk.propose, List.mem_append, List.mem_singleton, or_and_right,
    exists_or, exists_eq_left, hrow]

namespace Placing

variable {now : Instant} {d d' : Desk} {xs : List Decision} {tried created : List Proposal}

theorem sublist (h : Placing now d xs tried created d') : created.Sublist tried := by
  induction h with
  | nil d => exact .slnil
  | unmatched hx rest ih => exact ih
  | duplicate id hx h rest ih => exact ih.cons _
  | created id hx h rest ih => exact ih.cons_cons _

/-- Each decision is unmatched, or one proposal is tried for it. -/
theorem length (h : Placing now d xs tried created d') :
    tried.length + xs.countP (·.found.isNone) = xs.length := by
  induction h with
  | nil d => rfl
  | unmatched hx rest ih =>
    rw [List.countP_cons, hx, List.length_cons]
    simp only [Option.isNone_none, if_true]
    omega
  | duplicate id hx h rest ih =>
    rw [List.countP_cons, hx, List.length_cons, List.length_cons]
    simp only [Option.isNone_some, Bool.false_eq_true, if_false]
    omega
  | created id hx h rest ih =>
    rw [List.countP_cons, hx, List.length_cons, List.length_cons]
    simp only [Option.isNone_some, Bool.false_eq_true, if_false]
    omega

/-- What is created is added to the store and told of, in order, and nothing else is done. -/
theorem desk_eq (h : Placing now d xs tried created d') :
    d'.store = { d.store with proposals := d.store.proposals ++ created.map .ofProposal } ∧
      d'.told = d.told ++ created.map .proposed ∧ d'.dispatched = d.dispatched := by
  induction h with
  | nil d =>
    rw [List.map_nil, List.map_nil, List.append_nil, List.append_nil]
    exact ⟨rfl, rfl, rfl⟩
  | unmatched hx rest ih => exact ih
  | duplicate id hx h rest ih => exact ih
  | created id hx h rest ih =>
    obtain ⟨hstore, htold, hdispatched⟩ := ih
    refine ⟨?_, ?_, hdispatched⟩
    · rw [hstore, List.map_cons, List.append_cons]
      rfl
    · rw [htold, List.map_cons, List.append_cons]
      rfl

/-- Of the proposals that are tried, those are created for which none was waiting, neither in the
store nor among those created before. -/
theorem mem_created_iff (h : Placing now d xs tried created d') (hids : (tried.map (·.id)).Nodup)
    {before after : List Proposal} {p : Proposal} (hsplit : tried = before ++ p :: after) :
    p ∈ created ↔ ¬d.store.Awaits p ∧ ∀ q ∈ before, q ∈ created → ¬q.Twin p := by
  induction h generalizing before with
  | nil d => cases before <;> cases hsplit
  | unmatched hx rest ih => exact ih hids hsplit
  | @duplicate d d' x xs tried created f id hx haw rest ih =>
    obtain ⟨hfirst, hids⟩ := List.nodup_cons.mp hids
    have hnot : Proposal.ofMatch id f now ∉ created := by
      intro hmem
      exact hfirst (List.mem_map_of_mem (rest.sublist.subset hmem))
    cases before with
    | nil =>
      -- the one that was dropped, for which another waits
      obtain ⟨rfl, rfl⟩ := List.cons.inj hsplit
      exact iff_of_false hnot fun h => h.1 haw
    | cons q before =>
      obtain ⟨rfl, hrest⟩ := List.cons.inj hsplit
      rw [ih hids hrest, List.forall_mem_cons]
      have hskip : Proposal.ofMatch id f now ∈ created → ¬(Proposal.ofMatch id f now).Twin p :=
        fun hmem => absurd hmem hnot
      tauto
  | @created d d' x xs tried created f id hx hno rest ih =>
    obtain ⟨hfirst, hids⟩ := List.nodup_cons.mp hids
    cases before with
    | nil =>
      obtain ⟨rfl, rfl⟩ := List.cons.inj hsplit
      refine iff_of_true List.mem_cons_self ⟨hno, ?_⟩
      intro q hq
      cases hq
    | cons q before =>
      obtain ⟨rfl, hrest⟩ := List.cons.inj hsplit
      have hrest : tried = before ++ p :: after := hrest
      -- the one that was created first is another than all that come later
      have hne : ∀ q ∈ before ++ p :: after, q ≠ Proposal.ofMatch id f now := by
        rintro q hq rfl
        rw [← hrest] at hq
        exact hfirst (List.mem_map_of_mem hq)
      have hmem (q : Proposal) (hq : q ∈ before ++ p :: after) :
          q ∈ Proposal.ofMatch id f now :: created ↔ q ∈ created := by
        rw [List.mem_cons]
        exact or_iff_right (hne q hq)
      have hbefore : (∀ q ∈ before, q ∈ Proposal.ofMatch id f now :: created → ¬q.Twin p) ↔
          ∀ q ∈ before, q ∈ created → ¬q.Twin p := by
        refine forall₂_congr fun q hq => ?_
        rw [hmem q (List.mem_append_left _ hq)]
      rw [hmem p (List.mem_append_right _ List.mem_cons_self), ih hids hrest, List.forall_mem_cons,
        hbefore, awaits_propose rfl, not_or]
      have hself : Proposal.ofMatch id f now ∈ Proposal.ofMatch id f now :: created :=
        List.mem_cons_self
      tauto

end Placing

/-- Moments whose identifiers are new to a store. -/
structure Fresh (moments : List Moment) (s : Store) : Prop where
  distinct : (moments.map (·.fresh)).Nodup
  unused : ∀ m ∈ moments, ∀ r ∈ s.proposals, r.id ≠ .text m.fresh.text

/-- A stretch of moments, from a place on. -/
def stretch (moments : Nat → Moment) (first count : Nat) : List Moment :=
  (List.range' first count).map moments

theorem stretch_succ (moments : Nat → Moment) (first count : Nat) :
    stretch moments first (count + 1) = moments first :: stretch moments (first + 1) count := by
  rw [stretch, List.range'_succ, List.map_cons]
  rfl

theorem Fresh.head {m : Moment} {ms : List Moment} {s : Store} (h : Fresh (m :: ms) s) :
    m.fresh ∉ ms.map (·.fresh) :=
  (List.nodup_cons.mp h.distinct).1

theorem Fresh.tail {m : Moment} {ms : List Moment} {s : Store} (h : Fresh (m :: ms) s) :
    Fresh ms s where
  distinct := (List.nodup_cons.mp h.distinct).2
  unused := fun m' hm => h.unused m' (List.mem_cons_of_mem _ hm)

/-- A proposal under the identifier of one moment leaves those of the later ones new. -/
theorem Fresh.propose {m : Moment} {ms : List Moment} {d : Desk} {p : Proposal}
    (h : Fresh (m :: ms) d.store) (hp : p.id = m.fresh) : Fresh ms (d.propose p).store := by
  refine ⟨h.tail.distinct, ?_⟩
  intro m' hm r hr heq
  rcases List.mem_append.mp hr with hr | hr
  · exact h.tail.unused m' hm r hr heq
  · rw [List.mem_singleton.mp hr] at heq
    have hid : p.id = m'.fresh := Store.text_injective (Store.Cell.text.inj heq)
    have hmem : m'.fresh ∈ ms.map (·.fresh) := List.mem_map_of_mem hm
    rw [← hid, hp] at hmem
    exact h.head hmem

/-- Under a new identifier a match is kept out by nothing but a pending twin. -/
theorem blocked_ofMatch {s : Store} {id : Uuid} (hid : ∀ r ∈ s.proposals, r.id ≠ .text id.text)
    (f : Match) (now : Instant) :
    s.Blocked (.ofMatch id f now) ↔ s.Awaits (.ofMatch id f now) := by
  constructor
  · rintro (⟨r, hr, heq⟩ | ⟨-, policy, hpolicy, r, hr, hstatus, hrecord, hcell⟩)
    · exact absurd heq (hid r hr)
    · refine ⟨r, hr, hstatus, hrecord, ?_⟩
      rw [hcell, hpolicy]
      rfl
  · rintro ⟨r, hr, hstatus, hrecord, hcell⟩
    exact .inr ⟨rfl, f.policyId, rfl, r, hr, hstatus, hrecord, hcell⟩

/-- The report of a batch after decisions were placed. -/
def Intake.Report.after (r : Intake.Report) (xs : List Decision) (tried created : List Proposal) :
    Intake.Report where
  created := r.created ++ created
  duplicates := r.duplicates + (tried.length - created.length)
  unmatched := r.unmatched + xs.countP (·.found.isNone)
  anomalies := r.anomalies + (xs.map (·.trace.anomalies)).sum

namespace Intake.Report

/-- The report when a decision found no match. -/
def unmatchedBy (r : Intake.Report) (x : Decision) : Intake.Report :=
  { r with anomalies := r.anomalies + x.trace.anomalies, unmatched := r.unmatched + 1 }

/-- The report when the match of a decision was dropped. -/
def duplicatedBy (r : Intake.Report) (x : Decision) : Intake.Report :=
  { r with anomalies := r.anomalies + x.trace.anomalies, duplicates := r.duplicates + 1 }

/-- The report when the match of a decision became a proposal. -/
def createdBy (r : Intake.Report) (x : Decision) (p : Proposal) : Intake.Report :=
  { r with anomalies := r.anomalies + x.trace.anomalies, created := r.created ++ [p] }

variable {r : Intake.Report} {x : Decision} {xs : List Decision} {tried created : List Proposal}

theorem after_nil : r.after [] [] [] = r := by
  simp [after]

theorem after_unmatched (hx : x.found = none) :
    (r.unmatchedBy x).after xs tried created = r.after (x :: xs) tried created := by
  simp only [after, unmatchedBy, mk.injEq, List.countP_cons, List.map_cons, List.sum_cons, hx,
    Option.isNone_none, if_true, true_and]
  omega

theorem after_duplicated {f : Match} (hx : x.found = some f) (p : Proposal)
    (hlength : created.length ≤ tried.length) :
    (r.duplicatedBy x).after xs tried created = r.after (x :: xs) (p :: tried) created := by
  simp only [after, duplicatedBy, mk.injEq, List.countP_cons, List.map_cons, List.sum_cons,
    List.length_cons, hx, Option.isNone_some, Bool.false_eq_true, if_false, true_and]
  omega

theorem after_created {f : Match} (hx : x.found = some f) (p : Proposal) :
    (r.createdBy x p).after xs tried created = r.after (x :: xs) (p :: tried) (p :: created) := by
  simp only [after, createdBy, mk.injEq, List.countP_cons, List.map_cons, List.sum_cons,
    List.length_cons, hx, Option.isNone_some, Bool.false_eq_true, if_false, List.append_assoc,
    List.singleton_append, true_and]
  omega

end Intake.Report

namespace Call

/-- The proposals that the steps of a call try to add. -/
def tries (su : Setup) (moments : Nat → Moment) : Nat → Nat → Call → Desk → List Proposal
  | 0, _, _, _ => []
  | n + 1, first, c, d =>
    (c.adds? (moments first)).toList ++
      tries su moments n (first + 1) (c.step su (moments first) d).1 (c.step su (moments first) d).2

variable (su : Setup) (moments : Nat → Moment)

theorem tries_succ (n first : Nat) (c : Call) (d : Desk) :
    tries su moments (n + 1) first c d = (c.adds? (moments first)).toList ++
      tries su moments n (first + 1) (c.step su (moments first) d).1
        (c.step su (moments first) d).2 := rfl

theorem tries_done (n first : Nat) (r : Intake.Result) (d : Desk) :
    tries su moments n first (.intake (.done r)) d = [] := by
  induction n generalizing first with
  | zero => rfl
  | succ n ih => exact ih (first + 1)

/-- What a batch tries to add goes by the identifiers of its moments. -/
theorem tries_ids (n first : Nat) (i : Intake) (d : Desk) :
    ((tries su moments n first (.intake i) d).map (·.id)).Sublist
      ((stretch moments first n).map (·.fresh)) := by
  -- each step tries one proposal at most, under the identifier of its own moment
  induction n generalizing first i d with
  | zero => exact .slnil
  | succ n ih =>
    have hadds : ∀ p, Call.adds? (moments first) (.intake i) = some p →
        p.id = (moments first).fresh := by
      intro p hp
      cases adds_of_eq hp with
      | matched hx xs now r => rfl
    rw [tries, stretch_succ, List.map_append, List.map_cons]
    have hrest := ih (first + 1) (i.step su.floor (moments first) d).1
      (i.step su.floor (moments first) d).2
    cases ha : Call.adds? (moments first) (.intake i) with
    | none => exact hrest.cons _
    | some p =>
      rw [Option.toList_some, List.map_singleton, hadds p ha]
      exact hrest.cons_cons _

variable {su moments} {m : Moment} {d : Desk} {x : Decision} {xs : List Decision} {now : Instant}
  {r : Intake.Report} {f : Match}

theorem step_unmatched (hx : x.found = none) :
    step su m d (.intake (.place (x :: xs) now r)) =
      (.intake (.place xs now (r.unmatchedBy x)), d) := by
  simp only [step, Intake.step, hx]
  rfl

theorem step_duplicated (su : Setup) (xs : List Decision) (r : Intake.Report)
    (hf : d.store.Filled) (hx : x.found = some f) (hb : d.store.Blocked (.ofMatch m.fresh f now)) :
    step su m d (.intake (.place (x :: xs) now r)) =
      (.intake (.place xs now (r.duplicatedBy x)), d) := by
  simp only [step, Intake.step, hx, Desk.on, Store.insertProposal_of_blocked hf hb]
  rfl

/-- A proposal that can be added is added in one step, and told of in the next. -/
theorem step_created (su : Setup) (xs : List Decision) (r : Intake.Report)
    (hf : d.store.Filled) (hx : x.found = some f) (hb : ¬d.store.Blocked (.ofMatch m.fresh f now)) :
    ∃ between d', step su m d (.intake (.place (x :: xs) now r)) = (.intake between, d') ∧
      ∀ m', Call.adds? m' (.intake between) = none ∧ step su m' d' (.intake between) =
        (.intake (.place xs now (r.createdBy x (.ofMatch m.fresh f now))),
          d.propose (.ofMatch m.fresh f now)) := by
  simp only [step, Intake.step, hx, Desk.on, Store.insertProposal_of_not_blocked hf hb]
  exact ⟨_, _, rfl, fun m' => ⟨rfl, rfl⟩⟩

/-- A batch places its decisions one after the other, under the identifiers that it finds. -/
theorem runFor_place (su : Setup) {moments : Nat → Moment} {n first : Nat} (xs : List Decision)
    (now : Instant) (r : Intake.Report) (hf : d.store.Filled) (hn : 2 * xs.length + 1 ≤ n)
    (hfresh : Fresh (stretch moments first n) d.store) :
    ∃ tried created d', tries su moments n first (.intake (.place xs now r)) d = tried ∧
      runFor su moments n first (.intake (.place xs now r)) d =
        (.intake (.done (.ok (r.after xs tried created))), d') ∧
      Placing now d xs tried created d' := by
  -- the steps that are left, the desk and the report so far change from decision to decision
  induction xs generalizing n first d r with
  | nil =>
    obtain ⟨n, rfl⟩ : ∃ k, n = k + 1 := ⟨n - 1, by omega⟩
    have hrun := runFor_of_isDone su moments n (first + 1) (c := .intake (.done (.ok r))) d rfl
    have htries := tries_done su moments n (first + 1) (.ok r) d
    refine ⟨[], [], d, htries, ?_, .nil d⟩
    rw [Intake.Report.after_nil]
    exact hrun
  | cons x xs ih =>
    obtain ⟨n, rfl⟩ : ∃ k, n = k + 1 := ⟨n - 1, by omega⟩
    rw [List.length_cons] at hn
    rw [stretch_succ] at hfresh
    cases hx : x.found with
    | none =>
      obtain ⟨tried, created, d', htries, hrun, hplacing⟩ :=
        ih (r.unmatchedBy x) hf (by omega) hfresh.tail
      refine ⟨tried, created, d', ?_, ?_, .unmatched hx hplacing⟩
      · rw [tries_succ, step_unmatched hx, htries, adds?, hx]
        rfl
      · rw [runFor_succ, step_unmatched hx, hrun, Intake.Report.after_unmatched hx]
    | some f =>
      have hunused := hfresh.unused (moments first) List.mem_cons_self
      have hblocked := blocked_ofMatch hunused f now
      by_cases hb : d.store.Awaits (.ofMatch (moments first).fresh f now)
      · obtain ⟨tried, created, d', htries, hrun, hplacing⟩ :=
          ih (r.duplicatedBy x) hf (by omega) hfresh.tail
        have hstep := step_duplicated su xs r hf hx (hblocked.mpr hb)
        refine ⟨_ :: tried, created, d', ?_, ?_, .duplicate (moments first).fresh hx hb hplacing⟩
        · rw [tries_succ, hstep, htries, adds?, hx]
          rfl
        · rw [runFor_succ, hstep, hrun,
            Intake.Report.after_duplicated hx _ hplacing.sublist.length_le]
      · -- the identifier of the step that tells of the proposal is not used
        obtain ⟨n, rfl⟩ : ∃ k, n = k + 1 := ⟨n - 1, by omega⟩
        have hnot := fun h => hb (hblocked.mp h)
        obtain ⟨between, d₁, hstep, htell⟩ := step_created su xs r hf hx hnot
        obtain ⟨hadds, hstep'⟩ := htell (moments (first + 1))
        have hfilled : (d.propose (.ofMatch (moments first).fresh f now)).store.Filled := by
          have hinsert := hf.insertProposal (.ofMatch (moments first).fresh f now)
          rw [Store.insertProposal_of_not_blocked hf hnot] at hinsert
          exact hinsert
        have hfresh' := hfresh.propose (p := .ofMatch (moments first).fresh f now) rfl
        rw [stretch_succ] at hfresh'
        obtain ⟨tried, created, d', htries, hrun, hplacing⟩ :=
          ih (r.createdBy x (.ofMatch (moments first).fresh f now)) hfilled (by omega)
            hfresh'.tail
        refine ⟨_ :: tried, _ :: created, d', ?_, ?_, .created (moments first).fresh hx hb hplacing⟩
        · rw [tries_succ, hstep, tries_succ, hadds, hstep', htries, adds?, hx]
          rfl
        · rw [runFor_succ, hstep, runFor_succ, hstep', hrun, Intake.Report.after_created hx]

end Call
end Signoff
