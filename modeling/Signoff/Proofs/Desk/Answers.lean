import Mathlib
import Signoff.Proofs.Desk.Orderly
import Signoff.Proofs.Desk.PendingPage

/-!
What calls answer. An answer is put together while its call goes on, out of the row that was claimed,
the match or the draft, and the store has the columns. `Vouches` says of each call under way what is
read already of that which it is going to answer; every step hands it on, so that whoever looks up
what a call has answered finds it as it was answered.
-/

namespace Signoff

open Store

/-- The proposals that a call has come to. -/
def Call.answered : Call → List Proposal
  | .review (.done (.ok p)) => [p]
  | .intake (.done (.ok r)) => r.created
  | _ => []

/-- The policy that a call has come to. -/
def Call.answeredPolicy? : Call → Option Policy
  | .authoring (.done (.ok p)) => some p
  | _ => none

/-- A proposal is what is read under its identifier. -/
def Store.Yields (s : Store) (p : Proposal) : Prop := ∃ r, s.rowOf p.id = some r ∧ r.Reads p

/-- What a call is going to answer, as far as it has come to it, is what is read. -/
def Call.Vouches (s : Store) : Call → Prop
  | .review (.tellApproved p _) | .review (.carryOut p _) | .review (.settle p _ _)
  | .review (.tellRenewed p) | .review (.done (.ok p)) => s.Yields p
  | .review (.tellSettled p o) => s.Yields { p with status := Review.statusOf o, error := o.error }
  | .intake (.place _ _ r) | .intake (.done (.ok r)) => ∀ p ∈ r.created, s.Yields p
  | .intake (.tellProposed p _ _ r) => ∀ q ∈ r.created ++ [p], s.Yields q
  | .authoring (.done (.ok p)) => Authoring.found s p.id = .ok p.unsigned
  | _ => True

/-- No policy that a call makes of a draft, or has come to, has a zero with a sign. -/
def Call.Signless : Call → Prop
  | .authoring (.create draft) => draft.confidence.unsigned = draft.confidence
  | .authoring (.done (.ok p)) => p.unsigned = p
  | _ => True

variable {s : Store} {d : Desk} {m : Moment} {c : Call} {b : Book} {p q : Proposal}

/-! ### What is read -/

namespace Store

theorem Yields.found (hr : s.Ready) (h : s.Yields p) : Review.found s p.id = .ok p := by
  simp only [Review.found, (getProposal_some hr.hasProposals).mpr h]

theorem Yields.insertProposal (h : s.Yields q) (p : Proposal) : (s.insertProposal p).2.Yields q := by
  rcases insertProposal_store s p with heq | heq
  · rwa [heq]
  · obtain ⟨r, hrow, hreads⟩ := h
    refine ⟨r, ?_, hreads⟩
    rw [heq, rowOf_append, hrow, Option.some_or]

/-- A proposal that was added is read as it was added. -/
theorem yields_of_inserted (hr : s.Ready) (hp : (ProposalRow.ofProposal p).Holds p)
    (h : (s.insertProposal p).1 = .ok true) : (s.insertProposal p).2.Yields p := by
  have hnone := rowOf_of_inserted hr h
  rcases insertProposal_cases hr p with heq | heq
  · rw [heq] at h
    cases h
  · refine ⟨.ofProposal p, ?_, hp.reads⟩
    rw [heq, rowOf_append, hnone, hp.own]
    rfl

theorem yields_changed {t : Transition} {r : ProposalRow} (hrow : s.rowOf t.id = some r)
    (hstatus : r.status = .text t.source.name) (hreads : (r.apply t).Reads p) :
    (s.changed t).Yields p := by
  have hown : p.id = t.id := hreads.id_eq (mem_of_rowOf hrow).2
  exact ⟨r.apply t, hown ▸ rowOf_changed_self hrow hstatus, hreads⟩

/-- A change of status answers what it reads of the row that it has changed. -/
theorem yields_of_transition (hk : s.Keyed) {t : Transition} {s' : Store}
    (h : s.transition t = (.ok (some p), s')) : s'.Yields p := by
  obtain ⟨-, -, ⟨r, hrow, hstatus, hread⟩, rfl⟩ := transition_some hk h
  exact yields_changed hrow hstatus (read_ok.mp hread)

/-- A proposal that was read is read as it is changed. -/
theorem Yields.transitionWithEntry (hk : s.Keyed) (h : s.Yields p) {t : Transition}
    {e : Audit.Entry} {s' : Store} (hid : t.id = p.id)
    (hnow : ∀ now, t.decidedAt = some now → now.Sortable)
    (ht : s.transitionWithEntry t e = (.ok true, s')) : s'.Yields (t.change p) := by
  have hrecordable := recordable_of_ok hk (congrArg Prod.fst ht)
  rw [transitionWithEntry_of_recordable hk hrecordable] at ht
  have hstore : s.changedWith t e = s' := congrArg Prod.snd ht
  obtain ⟨r, -, hrow, hstatus, -⟩ := hrecordable.row
  obtain ⟨u, hu, hreads⟩ := h
  -- identifiers are unique, so the row that is changed is the one that was read
  rw [← hid, hrow, Option.some.injEq] at hu
  rw [← hu] at hreads
  rw [← hstore]
  exact yields_changed hrow hstatus (hreads.apply hnow)

end Store

/-! ### One step -/

theorem vouches_review (reg : Registry) (hr : d.store.Ready) {r : Review}
    (hc : (Call.review r).Carries) (h : (Call.review r).Vouches d.store) :
    (Call.review (r.step reg m d).1).Vouches (r.step reg m d).2.store := by
  cases r with
  | approve id reviewer =>
    rw [Review.step]
    split
    · trivial
    · trivial
    · next p d' ht => exact yields_of_transition hr.toKeyed (Desk.of_on ht)
  | settle p reviewer o =>
    rw [Review.step]
    split
    · trivial
    · trivial
    · next d' ht =>
      exact Yields.transitionWithEntry hr.toKeyed h rfl (by rintro _ ⟨⟩) (Desk.of_on ht)
  | reject id reviewer reason =>
    rw [Review.step]
    split
    · trivial
    · split <;> trivial
  | dismiss p reviewer reason =>
    rw [Review.step]
    split <;> trivial
  | reread id =>
    simp only [Review.step]
    cases hfound : Review.found d.store id with
    | error e => trivial
    | ok p =>
      obtain ⟨rfl, hrow⟩ := id_of_found hr hfound
      exact hrow
  | retry id =>
    rw [Review.step]
    split
    · trivial
    · split <;> trivial
  | renew p =>
    rw [Review.step]
    split
    · trivial
    · trivial
    · next d' ht =>
      -- what is tried again was read before, so that its new row reads as it is
      have hnew := yields_of_inserted hr (holds_of_adds? (m := m) hc rfl).2
      rw [Desk.of_on ht] at hnew
      exact hnew rfl
  | tellApproved p reviewer => exact h
  | carryOut p reviewer => exact h
  | tellSettled p o => exact h
  | tellRejected id => trivial
  | tellRenewed p => exact h
  | refuse id target => trivial
  | done r => exact h

theorem vouches_intake (floor : Double) (hr : d.store.Ready) {i : Intake}
    (hc : (Call.intake i).Carries) (h : (Call.intake i).Vouches d.store) :
    (Call.intake (i.step floor m d).1).Vouches (i.step floor m d).2.store := by
  cases i with
  | batch records =>
    rw [Intake.step]
    split
    · trivial
    · exact fun p hp => absurd hp List.not_mem_nil
  | place decisions now r =>
    cases decisions with
    | nil => exact h
    | cons x rest =>
      have hcreated : ∀ q ∈ r.created, d.store.Yields q := h
      rw [Intake.step]
      dsimp only
      split
      · exact hcreated
      · next f hf =>
        -- a row that comes last hides none of those before it
        have hkept (q : Proposal) (hq : q ∈ r.created) :
            (d.store.insertProposal (.ofMatch m.fresh f now)).2.Yields q :=
          (hcreated q hq).insertProposal _
        split
        · trivial
        · next d' ht =>
          rw [Desk.of_on ht] at hkept
          exact hkept
        · next d' ht =>
          have hadds : (Call.intake (.place (x :: rest) now r)).adds? m =
              some (.ofMatch m.fresh f now) := by
            simp only [Call.adds?, hf, Option.map_some]
          have hnew := yields_of_inserted hr (holds_of_adds? hc hadds).2
          rw [Desk.of_on ht] at hkept hnew
          intro q hq
          rcases List.mem_append.mp hq with hq | hq
          · exact hkept q hq
          · exact List.mem_singleton.mp hq ▸ hnew rfl
  | tellProposed p decisions now r => exact h
  | done r => exact h

/-- A policy that is found has the number under which it was looked for. -/
theorem Store.Represents.policy_of_found (h : s.Represents b) {id : Int} {p : Policy}
    (hfound : Authoring.found s id = .ok p) : p.id = id ∧ p.unsigned = p := by
  rw [h.found] at hfound
  cases he : b.entry id with
  | none =>
    rw [he] at hfound
    cases hfound
  | some e =>
    rw [he] at hfound
    cases hfound
    exact ⟨rfl, Policy.unsigned_unsigned _⟩

/-- What a call about policies has come to is found, but for the sign of a zero that its draft had. -/
theorem vouches_authoring (h : d.store.Represents b) (hnow : m.now.Sortable) {a : Authoring}
    (hdraft : ∀ draft, (Call.authoring a).draft? = some draft → draft.Legible)
    (hc : (Call.authoring a).Vouches d.store) :
    (Call.authoring (a.step m d).1).Vouches (a.step m d).2.store ∧
      ((Call.authoring a).Signless → (Call.authoring (a.step m d).1).Signless) := by
  obtain ⟨a', s, hstep, hsteps⟩ := Authoring.steps m d a
  rw [hstep]
  have hwritten (id : Int) (answer : Except Store.Error Bool) :
      (Call.authoring (Authoring.afterWrite id answer)).Vouches s ∧
        ((Call.authoring a).Signless → (Call.authoring (Authoring.afterWrite id answer)).Signless) :=
    Authoring.afterWrite_induction (P := fun a' => (Call.authoring a').Vouches s ∧
      ((Call.authoring a).Signless → (Call.authoring a').Signless)) ⟨trivial, fun _ => trivial⟩
      (fun _ => ⟨trivial, fun _ => trivial⟩) answer
  cases hsteps with
  | created draft body hbody =>
    simp only [h.insertPolicy hnow]
    split_ifs
    · have hfound := (h.enlarged (Policy.Draft.sound_of_validate hbody)
        ((hdraft draft rfl).body hbody) hnow).found (b.last + 1)
      rw [b.add_self] at hfound
      refine ⟨hfound, fun hsignless => ?_⟩
      -- the body has the confidence of the draft
      obtain ⟨condition, params, -, -, -, -, rfl⟩ := Policy.Draft.validate_ok.mp hbody
      have hconfidence : draft.confidence.unsigned = draft.confidence := hsignless
      simp only [Except.mapError, Call.Signless, Policy.unsigned, Policy.Body.unsigned, hconfidence]
    · exact ⟨trivial, fun _ => trivial⟩
  | updated id draft body _ => exact hwritten id _
  | switched id enabled => exact hwritten id _
  | reread id =>
    cases hfound : Authoring.found d.store id with
    | error e => exact ⟨trivial, fun _ => trivial⟩
    | ok p =>
      obtain ⟨hid, hunsigned⟩ := h.policy_of_found hfound
      have hagain : Authoring.found d.store p.id = .ok p.unsigned := by rw [hid, hunsigned, hfound]
      exact ⟨hagain, fun _ => hunsigned⟩
  | done r => exact ⟨hc, id⟩
  | _ => exact ⟨trivial, fun _ => trivial⟩

/-! ### A whole call -/

/-- What is known of a desk and of a call that has the next steps on it to itself. -/
structure Call.Candid (d : Desk) (c : Call) : Prop where
  tidy : d.store.Tidy
  book : ∃ b, d.store.Represents b
  carries : c.Carries
  draft : ∀ draft, c.draft? = some draft → draft.Legible
  vouches : c.Vouches d.store

/-- A call that has not begun has come to nothing. -/
theorem vouches_of_isStart (h : c.isStart = true) (s : Store) : c.Vouches s := by
  rcases c with r | i | a | o | o
  · cases r <;> trivial
  · cases i <;> trivial
  · cases a <;> trivial
  all_goals trivial

theorem candid_step (su : Setup) (hnow : m.now.Sortable) (h : c.Candid d) :
    (c.step su m d).1.Candid (c.step su m d).2 ∧ (c.Signless → (c.step su m d).1.Signless) := by
  obtain ⟨b, hb⟩ := h.book
  have hvouches : (c.step su m d).1.Vouches (c.step su m d).2.store ∧
      (c.Signless → (c.step su m d).1.Signless) := by
    rcases c with r | i | a | o | o
    · exact ⟨vouches_review su.registry h.tidy.toReady h.carries h.vouches, fun _ => trivial⟩
    · exact ⟨vouches_intake su.floor h.tidy.toReady h.carries h.vouches, fun _ => trivial⟩
    · exact vouches_authoring hb hnow h.draft h.vouches
    all_goals exact ⟨trivial, fun _ => trivial⟩
  exact ⟨⟨tidy_step su h.tidy hnow h.carries, ⟨_, represents_step su hb hnow h.draft⟩,
    carries_step su h.tidy hnow h.carries, legible_draft_step su m d c, hvouches.1⟩, hvouches.2⟩

/-- All that a call knows it knows at its end. -/
theorem candid_run (su : Setup) {moments : Nat → Moment} (hclock : ∀ n, (moments n).now.Sortable)
    (first : Nat) (h : c.Candid d) :
    (c.run su moments first d).1.Candid (c.run su moments first d).2 ∧
      (c.Signless → (c.run su moments first d).1.Signless) := by
  refine Call.runFor_keeps su moments (Q := fun m => m.now.Sortable)
    (I := fun d' c' => c'.Candid d' ∧ (c.Signless → c'.Signless)) ?_ hclock c.left first ⟨h, id⟩
  intro m c' d' hnow hkept
  obtain ⟨hcandid, hsignless⟩ := candid_step su hnow hkept.1
  exact ⟨hcandid, hsignless ∘ hkept.2⟩

theorem found_of_answered (h : c.Candid d) (hp : p ∈ c.answered) :
    Review.found d.store p.id = .ok p := by
  have hyields : d.store.Yields p := by
    have hvouches := h.vouches
    unfold Call.answered at hp
    split at hp
    · exact List.mem_singleton.mp hp ▸ hvouches
    · exact hvouches p hp
    · cases hp
  exact hyields.found h.tidy.toReady

theorem found_of_answeredPolicy {p : Policy} (h : c.Candid d) (hp : c.answeredPolicy? = some p) :
    Authoring.found d.store p.id = .ok p.unsigned ∧ (c.Signless → p.unsigned = p) := by
  unfold Call.answeredPolicy? at hp
  split at hp
  · cases hp
    exact ⟨h.vouches, id⟩
  · cases hp

/-- Whatever calls from outside came to, a call that is then made without a break comes to its end and
answers what is stored: each proposal that it approved, rejected, made out to be tried again or made
of a record is found just as it was answered, and so is the policy that it made, rewrote or switched.
A policy that is made of a draft may lose the sign of a zero that the draft has for a confidence, and
nothing else. -/
theorem answers_read_back {calls : List Call} (hbrought : ∀ c ∈ calls, c.Brought)
    {turns : List Turn} (hclock : ∀ x ∈ turns, x.moment.now.Sortable) {d : Desk}
    (hd : d = ((⟨.empty, calls⟩ : Traffic).run turns).desk) {c : Call} (hc : c.Brought) (su : Setup)
    (moments : Nat → Moment) (hmoments : ∀ n, (moments n).now.Sortable) (first : Nat) :
    ∃ c' d', c.run su moments first d = (c', d') ∧ c'.isDone = true ∧
      (∀ p ∈ c'.answered, Review.found d'.store p.id = .ok p) ∧
      ∀ p, c'.answeredPolicy? = some p →
        ∃ q, Authoring.found d'.store p.id = .ok q ∧ q.Agrees p ∧
          ((∀ draft, c = .authoring (.create draft) → draft.confidence.unsigned = draft.confidence) →
            q = p) := by
  have htidy : d.store.Tidy := hd ▸ tidy_of_brought hbrought hclock
  have hbook : ∃ b, d.store.Represents b := hd ▸ represents_of_brought hbrought hclock
  have hcandid : c.Candid d :=
    ⟨htidy, hbook, hc.carries, hc.draft, vouches_of_isStart hc.start d.store⟩
  obtain ⟨hends, hsignless⟩ := candid_run su hmoments first hcandid
  refine ⟨_, _, rfl, Call.isDone_run su moments first c d, fun p hp => found_of_answered hends hp, ?_⟩
  intro p hp
  obtain ⟨hfound, hsame⟩ := found_of_answeredPolicy hends hp
  refine ⟨p.unsigned, hfound, Policy.agrees_unsigned p, fun hdraft => hsame (hsignless ?_)⟩
  -- of the calls that can be brought only one makes a policy of a draft
  unfold Call.Signless
  split
  · next draft => exact hdraft draft rfl
  · cases hc.start
  · trivial

/-- An approval that finds no handler, and a policy that is switched off. -/
theorem answers_read_back_sample :
    let d := ((⟨.empty, sampleWeek⟩ : Traffic).run sampleWeekTurns).desk
    let run := fun c => Call.run (sampleTurn 0 0).setup (fun n => (sampleTurn 3 n).moment) 11 c d
    let approval := run (.review (.approve (numbered 2) (some "ann")))
    let switch := run (.authoring (.setEnabled 1 false))
    (∀ c ∈ sampleWeek, c.Brought) ∧ (∀ x ∈ sampleWeekTurns, x.moment.now.Sortable) ∧
    (∃ p, approval.1.answered = [p] ∧ (p.status, p.decidedBy) = (.failed, some "ann") ∧
      Review.found approval.2.store p.id = .ok p) ∧
    ∃ p, switch.1.answeredPolicy? = some p ∧ p.body.enabled = false ∧
      Authoring.found switch.2.store p.id = .ok p := by
  intro d run approval switch
  have hanswers {c : Call} (hc : c.Brought) := answers_read_back brought_sampleWeek
    sortable_sampleWeekTurns (d := d) rfl hc (sampleTurn 0 0).setup
    (fun n => (sampleTurn 3 n).moment) (fun n => sortable_sampleTurn 3 n) 11
  refine ⟨brought_sampleWeek, sortable_sampleWeekTurns, ?_, ?_⟩
  · have hone : approval.1.answered.map (fun p => (p.status, p.decidedBy)) =
        [(.failed, some "ann")] := by decide +kernel
    obtain ⟨p, hp, hdecided⟩ := List.map_eq_singleton_iff.mp hone
    obtain ⟨c', d', hrun, -, hfound, -⟩ := hanswers (c := .review (.approve (numbered 2) (some "ann")))
      (Call.brought_review rfl)
    have hrun' : approval = (c', d') := hrun
    rw [hrun'] at hp ⊢
    exact ⟨p, hp, hdecided, hfound p (hp ▸ List.mem_singleton_self p)⟩
  · have hsome : switch.1.answeredPolicy?.map (·.body.enabled) = some false := by decide +kernel
    obtain ⟨p, hp, henabled⟩ := Option.map_eq_some_iff.mp hsome
    obtain ⟨c', d', hrun, -, -, hfound⟩ := hanswers (c := .authoring (.setEnabled 1 false))
      (Call.brought_authoring rfl (by rintro _ ⟨⟩))
    have hrun' : switch = (c', d') := hrun
    rw [hrun'] at hp ⊢
    obtain ⟨q, hq, -, hsame⟩ := hfound p hp
    rw [hsame (by rintro _ ⟨⟩)] at hq
    exact ⟨p, hp, henabled, hq⟩

end Signoff
