import Mathlib
import Signoff.Proofs.Desk.PolicyBook
import Signoff.Proofs.Desk.Standing
import Signoff.Proofs.Desk.Tidy

/-!
Desks in order: the tables are there, the rows of policies are those of a book, and every proposal
can be read. A desk that was empty is in order whatever calls are brought to it, and in whichever
order they take their steps.
-/

namespace Signoff

open Store

/-- A desk with which calls can get on. -/
structure Desk.Orderly (d : Desk) : Prop where
  ready : d.store.Ready
  book : ∃ b, d.store.Represents b
  standing : ∀ id, d.store.rowOf id = none ∨
    ∃ status entries handed, (d.file id).Shows id status entries handed

variable {d : Desk} {m : Moment} {b : Book}

theorem transition_apart (s : Store) (t : Transition) :
    ∃ proposals ledger, (s.transition t).2 = { s with proposals := proposals, ledger := ledger } := by
  rcases transition_cases s t with ⟨h, -⟩ | ⟨-, h⟩ <;> rw [h] <;> exact ⟨_, _, rfl⟩

theorem transitionWithEntry_apart (s : Store) (t : Transition) (e : Audit.Entry) :
    ∃ proposals ledger,
      (s.transitionWithEntry t e).2 = { s with proposals := proposals, ledger := ledger } := by
  rcases transitionWithEntry_cases s t e with h | ⟨-, h⟩ <;> rw [h] <;> exact ⟨_, _, rfl⟩

theorem insertProposal_apart (s : Store) (p : Proposal) :
    ∃ proposals ledger,
      (s.insertProposal p).2 = { s with proposals := proposals, ledger := ledger } := by
  rcases insertProposal_store s p with h | h <;> rw [h] <;> exact ⟨_, _, rfl⟩

/-- A call that neither is about policies nor moves or adds a proposal does nothing to the store. -/
theorem store_step (su : Setup) {c : Call} (hc : c.onPolicies = false) (hm : c.moves? = none)
    (ha : c.adds? m = none) : (c.step su m d).2.store = d.store := by
  cases c with
  | review r =>
    cases r with
    | reject id reviewer reason => simp only [Call.step, reject_desk]
    | retry id => simp only [Call.step, retry_desk]
    | approve id reviewer => cases hm
    | carryOut p reviewer => cases hm
    | settle p reviewer o => cases hm
    | dismiss p reviewer reason => cases hm
    | renew p => cases ha
    | _ => rfl
  | intake i =>
    cases i with
    | batch records => simp only [Call.step, batch_desk]
    | place decisions now r =>
      cases decisions with
      | nil => rfl
      | cons x rest =>
        have hfound : x.found = none := by simpa [Call.adds?] using ha
        simp only [Call.step, Intake.step, hfound]
    | _ => rfl
  | authoring a => cases hc
  | _ => rfl

/-- A call that is not about policies changes proposals and entries only. -/
theorem apart_step (su : Setup) {c : Call} (hc : c.onPolicies = false) :
    ∃ proposals ledger,
      (c.step su m d).2.store = { d.store with proposals := proposals, ledger := ledger } := by
  have heffect := effect_step (m := m) (d := d) su c
  generalize hd' : (c.step su m d).2 = d' at heffect
  -- the three effects say what becomes of proposals, so only the quiet one is looked into
  cases heffect with
  | quiet _ hm ha h =>
    rw [← hd', store_step su hc hm ha]
    exact ⟨_, _, rfl⟩
  | added p _ _ => exact insertProposal_apart d.store p
  | moved id _ _ _ _ h =>
    cases h with
    | changed t _ => exact transition_apart d.store t
    | recorded t e _ _ _ => exact transitionWithEntry_apart d.store t e
    | handedOut p _ => exact ⟨_, _, rfl⟩

/-- The book after one step of a call. -/
def Book.stepped (b : Book) (m : Moment) : Call → Book
  | .authoring (.create draft) =>
    match draft.validate with
    | .ok body => if b.last < maxPolicyId then b.add body m.now else b
    | .error _ => b
  | .authoring (.update id draft) =>
    match draft.validate with
    | .ok body => b.alter id fun e => { e with body := body, updated := m.now }
    | .error _ => b
  | .authoring (.switch id enabled) =>
    b.alter id fun e => { e with body := e.body.switched enabled, updated := m.now }
  | .authoring (.delete id) => b.remove id
  | _ => b

theorem represents_authoring (h : d.store.Represents b) (hnow : m.now.Sortable) (a : Authoring)
    (hdraft : ∀ draft, (Call.authoring a).draft? = some draft → draft.Legible) :
    (a.step m d).2.store.Represents (b.stepped m (.authoring a)) := by
  obtain ⟨a', s, hstep, hsteps⟩ := Authoring.steps m d a
  rw [hstep]
  cases hsteps with
  -- a draft that is at fault changes neither the table nor the book
  | createFlawed draft f hflawed | updateFlawed id draft f hflawed =>
    simp only [Book.stepped, hflawed]
    exact h
  | created draft body hbody =>
    simp only [Book.stepped, hbody, h.insertPolicy hnow]
    split_ifs
    · exact h.enlarged (Policy.Draft.sound_of_validate hbody) ((hdraft draft rfl).body hbody) hnow
    · exact h
  | updated id draft body hbody =>
    simp only [Book.stepped, hbody, Store.writeBody, h.changePolicy]
    exact h.updated id (Policy.Draft.sound_of_validate hbody) ((hdraft draft rfl).body hbody) hnow
  | switched id enabled =>
    simp only [Store.writeEnabled, h.changePolicy]
    exact h.switched id enabled hnow
  | removed id | unremoved id e =>
    simp only [h.deletePolicy]
    exact h.removed id
  | _ => exact h

/-- The rows of policies are those of a book after every step. -/
theorem represents_step (su : Setup) (h : d.store.Represents b) (hnow : m.now.Sortable) {c : Call}
    (hdraft : ∀ draft, c.draft? = some draft → draft.Legible) :
    (c.step su m d).2.store.Represents (b.stepped m c) := by
  cases hc : c.onPolicies with
  | false =>
    -- the rows stay, and with them the book
    obtain ⟨proposals, ledger, hstore⟩ := apart_step (m := m) (d := d) su hc
    have hbook : b.stepped m c = b := by
      cases c with
      | authoring a => cases hc
      | _ => rfl
    rw [hstore, hbook]
    exact ⟨h.schema, h.last, h.ids, h.bounded, h.rows, h.storable⟩
  | true =>
    cases c with
    | authoring a => exact represents_authoring h hnow a hdraft
    | _ => cases hc

/-- A draft is looked at in the first step only. -/
theorem draft?_step (su : Setup) (c : Call) : (c.step su m d).1.draft? = none := by
  cases c with
  | authoring a =>
    obtain ⟨a', s, hstep, hsteps⟩ := Authoring.steps m d a
    simp only [Call.step, hstep]
    cases hsteps with
    | updated id draft body _ =>
      exact Authoring.afterWrite_induction (P := fun a => (Call.authoring a).draft? = none) rfl
        (fun _ => rfl) _
    | switched id enabled =>
      exact Authoring.afterWrite_induction (P := fun a => (Call.authoring a).draft? = none) rfl
        (fun _ => rfl) _
    | _ => rfl
  | _ => rfl

theorem legible_draft_step (su : Setup) (m : Moment) (d : Desk) (c : Call) :
    ∀ draft, (c.step su m d).1.draft? = some draft → draft.Legible := by
  intro draft hlater
  rw [draft?_step] at hlater
  cases hlater

theorem represents_run {t : Traffic} (h : ∃ b, t.desk.store.Represents b)
    (hdrafts : ∀ c ∈ t.calls, ∀ draft, c.draft? = some draft → draft.Legible) {turns : List Turn}
    (hclock : ∀ x ∈ turns, x.moment.now.Sortable) :
    ∃ b, (t.run turns).desk.store.Represents b := by
  refine (run_keeps (I := fun d => ∃ b, d.store.Represents b) ?_ h hdrafts hclock).1
  rintro x c d hnow ⟨b, hb⟩ hdraft
  exact ⟨⟨_, represents_step x.setup hb hnow hdraft⟩, legible_draft_step x.setup x.moment d c⟩

theorem represents_of_brought {calls : List Call} (hbrought : ∀ c ∈ calls, c.Brought)
    {turns : List Turn} (hclock : ∀ x ∈ turns, x.moment.now.Sortable) :
    ∃ b, ((⟨.empty, calls⟩ : Traffic).run turns).desk.store.Represents b :=
  represents_run (t := ⟨.empty, calls⟩) ⟨_, represents_empty⟩ (fun c hc => (hbrought c hc).draft) hclock

/-- A proposal whose row can be read stands somewhere. -/
theorem standing_of_readable (h : d.store.Readable) (id : Uuid) :
    d.store.rowOf id = none ∨ ∃ status entries handed, (d.file id).Shows id status entries handed := by
  cases hrow : d.store.rowOf id with
  | none => exact .inl rfl
  | some r =>
    obtain ⟨hmem, hisOf⟩ := mem_of_rowOf hrow
    obtain ⟨p, hp⟩ := h r hmem
    exact .inr ⟨p.status, _, _, ⟨r, p, hrow, hp.reads, hp.reads.id_eq hisOf, rfl⟩, rfl, rfl⟩

/-- A desk that was empty stays in order. -/
theorem orderly_run {calls : List Call} (hbrought : ∀ c ∈ calls, c.Brought) {turns : List Turn}
    (hclock : ∀ x ∈ turns, x.moment.now.Sortable) :
    ((⟨.empty, calls⟩ : Traffic).run turns).desk.Orderly := by
  have htidy := tidy_of_brought hbrought hclock
  have hbook := represents_of_brought hbrought hclock
  exact ⟨htidy.toReady, hbook, standing_of_readable htidy.readable⟩

end Signoff
