import Mathlib
import Signoff.Proofs.Desk.Standing
import Signoff.Proofs.Desk.Succession

/-!
Many decisions on one pending proposal at once. Whatever the order of their steps, one of them has
the proposal, and all others learn that it is taken; the invariant says who has it and how far the
others can have come.
-/

namespace Signoff

/-- Decisions that have found nothing out yet, or only that the proposal is pending. -/
inductive Waiting (id : Uuid) : Status → Call → Prop
  | approve (reviewer : Option String) : Waiting id .approved (.review (.approve id reviewer))
  | reject (reviewer reason : Option String) :
    Waiting id .rejected (.review (.reject id reviewer reason))
  | dismiss (p : Proposal) (reviewer reason : Option String) (h : p.id = id) :
    Waiting id .rejected (.review (.dismiss p reviewer reason))

/-- Decisions that came late. -/
inductive Late (id : Uuid) : Status → Call → Prop
  | refuse (target : Status) : Late id target (.review (.refuse id target))
  | done (status target : Status) (h : status ≠ .pending) :
    Late id target (.review (.done (.error (.conflict id status target))))

/-- Approvals that have the proposal, and how often they handed its action out. -/
inductive Holding (id : Uuid) : Nat → Call → Prop
  | tellApproved (p : Proposal) (reviewer : Option String) (h : p.id = id) :
    Holding id 0 (.review (.tellApproved p reviewer))
  | carryOut (p : Proposal) (reviewer : Option String) (h : p.id = id) :
    Holding id 0 (.review (.carryOut p reviewer))
  | settle (p : Proposal) (reviewer : Option String) (o : Outcome) (h : p.id = id) :
    Holding id 1 (.review (.settle p reviewer o))

/-- Decisions that brought a proposal to its end: what they asked for, and what it came to. -/
inductive Won (id : Uuid) : Status → Status → Call → Prop
  | tellSettled (p : Proposal) (o : Outcome) (h : p.id = id) :
    Won id .approved (Review.statusOf o) (.review (.tellSettled p o))
  | settled (p : Proposal) (h : p.id = id) (hs : p.status = .executed ∨ p.status = .failed) :
    Won id .approved p.status (.review (.done (.ok p)))
  | tellRejected : Won id .rejected .rejected (.review (.tellRejected id))
  | reread : Won id .rejected .rejected (.review (.reread id))
  | rejected (p : Proposal) (h : p.id = id) (hs : p.status = .rejected) :
    Won id .rejected .rejected (.review (.done (.ok p)))

variable {d : Desk} {su : Setup} {m : Moment} {id : Uuid} {c : Call} {target final status : Status}
  {entries : List Store.EntryRow} {handed : Nat}

theorem statusOf_final (o : Outcome) :
    Review.statusOf o = .executed ∨ Review.statusOf o = .failed := by
  unfold Review.statusOf
  split
  · exact .inl rfl
  · exact .inr rfl

theorem Won.final_cases (h : Won id target final c) :
    target = .approved ∧ (final = .executed ∨ final = .failed) ∨
      target = .rejected ∧ final = .rejected := by
  cases h with
  | tellSettled p o _ => exact .inl ⟨rfl, statusOf_final o⟩
  | settled p _ hs => exact .inl ⟨rfl, hs⟩
  | tellRejected => exact .inr ⟨rfl, rfl⟩
  | reread => exact .inr ⟨rfl, rfl⟩
  | rejected p _ hs => exact .inr ⟨rfl, rfl⟩

theorem step_review {r r' : Review} {d' : Desk} (h : r.step su.registry m d = (r', d')) :
    Call.step su m d (.review r) = (.review r', d') := by
  simp only [Call.step, h]

/-- Once the proposal is decided on, the others are late and change nothing. -/
theorem late_step (su : Setup) (hr : d.store.Ready) (h : (d.file id).Shows id status entries handed)
    (hs : status ≠ .pending) (hc : Waiting id target c ∨ Late id target c) :
    Late id target (c.step su m d).1 ∧ (c.step su m d).2 = d := by
  rcases hc with hc | hc
  · cases hc with
    | approve reviewer =>
      rw [step_review (approve_step_decided _ _ hr h hs)]
      exact ⟨.refuse _, rfl⟩
    | reject reviewer reason =>
      rw [step_review (reject_step_decided _ _ _ hr h hs)]
      exact ⟨.done _ _ hs, rfl⟩
    | dismiss p reviewer reason hp =>
      rw [step_review (dismiss_step_decided _ _ _ hr h hp hs)]
      exact ⟨.refuse _, rfl⟩
  · cases hc with
    | refuse =>
      rw [step_review (refuse_step _ hr h)]
      exact ⟨.done _ _ hs, rfl⟩
    | done other _ hne => exact ⟨.done _ _ hne, rfl⟩

/-- What a decision does to a pending proposal: it has it, it only looked, or it rejected it. -/
theorem waiting_step (su : Setup) (hr : d.store.Ready) (h : (d.file id).Shows id .pending entries handed)
    (hnow : m.now.Sortable) (hu : d.store.Unused m.fresh) (hc : Waiting id target c) :
    (target = .approved ∧ Holding id 0 (c.step su m d).1 ∧
        ((c.step su m d).2.file id).Shows id .approved entries handed) ∨
      (Waiting id target (c.step su m d).1 ∧ (c.step su m d).2 = d) ∨
      (target = .rejected ∧ Won id .rejected .rejected (c.step su m d).1 ∧
        ∃ e, e.outcome = .text Status.rejected.name ∧
          ((c.step su m d).2.file id).Shows id .rejected (entries ++ [e]) handed) := by
  -- an approval claims at once; a rejection looks first, and turns down by its next step
  cases hc with
  | approve reviewer =>
    obtain ⟨p, d', hstep, hp, hshows⟩ :=
      approve_step_pending su.registry reviewer hr h hnow
    rw [step_review hstep]
    exact .inl ⟨rfl, .tellApproved p reviewer hp, hshows⟩
  | reject reviewer reason =>
    obtain ⟨p, hstep, hp⟩ := reject_step_pending (m := m) su.registry reviewer reason hr h
    rw [step_review hstep]
    exact .inr (.inl ⟨.dismiss p reviewer reason hp, rfl⟩)
  | dismiss p reviewer reason hp =>
    obtain ⟨e, d', hstep, he, hshows⟩ := dismiss_step_pending su.registry reviewer reason hr h hp
      hnow hu
    rw [step_review hstep]
    exact .inr (.inr ⟨rfl, .tellRejected, e, he, hshows⟩)

/-- An approval that has the proposal goes on, until it writes down how the action went. -/
theorem holding_step (su : Setup) {n : Nat} (hr : d.store.Ready)
    (h : (d.file id).Shows id .approved entries (handed + n)) (hu : d.store.Unused m.fresh)
    (hc : Holding id n c) :
    (∃ n', Holding id n' (c.step su m d).1 ∧
        ((c.step su m d).2.file id).Shows id .approved entries (handed + n')) ∨
      ∃ final e, Won id .approved final (c.step su m d).1 ∧ e.outcome = .text final.name ∧
        ((c.step su m d).2.file id).Shows id final (entries ++ [e]) (handed + 1) := by
  cases hc with
  | tellApproved p reviewer hp => exact .inl ⟨0, .carryOut p reviewer hp, h⟩
  | carryOut p reviewer hp =>
    obtain ⟨o, d', hstep, hshows⟩ := carryOut_step (m := m) su.registry reviewer h hp
    rw [step_review hstep]
    exact .inl ⟨1, .settle p reviewer o hp, hshows⟩
  | settle p reviewer o hp =>
    obtain ⟨e, d', hstep, he, hshows⟩ := settle_step su.registry reviewer (o := o) hr h hp hu
    rw [step_review hstep]
    exact .inr ⟨_, e, .tellSettled p o hp, he, hshows⟩

/-- How often a decision that asks for a status hands the action out. -/
def handOuts (target : Status) : Nat := if target = .approved then 1 else 0

/-- How a race stands: nobody has the proposal yet, an approval has it, or it came to its end. -/
inductive Standing (id : Uuid) (entries : List Store.EntryRow) (handed : Nat)
    (asked : Nat → Option Status) (t : Traffic) : Prop
  | opened (h : (t.desk.file id).Shows id .pending entries handed)
      (others : ∀ j c target, t.calls[j]? = some c → asked j = some target → Waiting id target c)
  | held (i n : Nat) (c : Call) (hi : t.calls[i]? = some c) (ha : asked i = some .approved)
      (hc : Holding id n c) (h : (t.desk.file id).Shows id .approved entries (handed + n))
      (others : ∀ j c target, j ≠ i → t.calls[j]? = some c → asked j = some target →
        Waiting id target c ∨ Late id target c)
  | closed (i : Nat) (c : Call) (target final : Status) (e : Store.EntryRow)
      (hi : t.calls[i]? = some c) (ha : asked i = some target) (hc : Won id target final c)
      (he : e.outcome = .text final.name)
      (h : (t.desk.file id).Shows id final (entries ++ [e]) (handed + handOuts target))
      (others : ∀ j c target, j ≠ i → t.calls[j]? = some c → asked j = some target →
        Waiting id target c ∨ Late id target c)

section Invariant

variable {asked : Nat → Option Status} {t : Traffic} {x : Turn}

theorem Standing.rowOf_ne (h : Standing id entries handed asked t) :
    t.desk.store.rowOf id ≠ none := by
  cases h with
  | opened h _ => exact h.rowOf_ne
  | held _ _ _ _ _ _ h _ => exact h.rowOf_ne
  | closed _ _ _ _ _ _ _ _ _ h _ => exact h.rowOf_ne

/-- A race stands as it did where neither the proposal nor a decision on it moved. -/
theorem Standing.congr {t' : Traffic} (h : Standing id entries handed asked t)
    (hf : t'.desk.file id = t.desk.file id)
    (hcalls : ∀ j target, asked j = some target → t'.calls[j]? = t.calls[j]?) :
    Standing id entries handed asked t' := by
  cases h with
  | opened h others =>
    exact .opened (hf ▸ h) fun j c target hj ha => others j c target (hcalls j target ha ▸ hj) ha
  | held i n c hi ha hc h others =>
    exact .held i n c (hcalls i _ ha ▸ hi) ha hc (hf ▸ h) fun j c target hne hj ha =>
      others j c target hne (hcalls j target ha ▸ hj) ha
  | closed i c target final e hi ha hc he h others =>
    exact .closed i c target final e (hcalls i _ ha ▸ hi) ha hc he (hf ▸ h)
      fun j c target hne hj ha => others j c target hne (hcalls j target ha ▸ hj) ha

end Invariant

theorem Late.answer (h : Late id target c) (hd : c.isDone = true) :
    ∃ status, status ≠ .pending ∧ c = .review (.done (.error (.conflict id status target))) := by
  cases h with
  | refuse => cases hd
  | done status _ hs => exact ⟨status, hs, rfl⟩

theorem Won.answer (h : Won id target final c) (hd : c.isDone = true) :
    ∃ p, c = .review (.done (.ok p)) ∧ p.id = id ∧ p.status = final := by
  cases h with
  | tellSettled => cases hd
  | settled p hp _ => exact ⟨p, rfl, hp, rfl⟩
  | tellRejected => cases hd
  | reread => cases hd
  | rejected p hp hs => exact ⟨p, rfl, hp, hs⟩

end Signoff
