import Mathlib
import Signoff.Proofs.Desk.Effect

/-!
Where a proposal stands: its row, the entries on it, and how often its action was handed out. Only a
step of a decision on the proposal moves it, and each kind of such a step does one thing from each
status.
-/

namespace Signoff

/-- What the desk has on one proposal. -/
@[ext]
structure File where
  row : Option Store.ProposalRow
  /-- Oldest first. -/
  entries : List Store.EntryRow
  /-- How often the action was handed to a handler. -/
  handed : Nat

/-- Where a proposal stands, as its file has it. -/
structure File.Shows (f : File) (id : Uuid) (status : Status) (entries : List Store.EntryRow)
    (handed : Nat) : Prop where
  row : ∃ r p, f.row = some r ∧ r.Reads p ∧ p.id = id ∧ p.status = status
  entries : f.entries = entries
  handed : f.handed = handed

namespace Desk

def file (d : Desk) (id : Uuid) : File := ⟨d.store.rowOf id, d.store.entriesOn id, d.dispatchesOf id⟩

variable {d d' : Desk} {m : Moment} {id : Uuid}

theorem file_of_quiet (h : Quiet d d') (id : Uuid) : d'.file id = d.file id := by
  simp only [file, Store.rowOf, Store.entriesOn, dispatchesOf, h.proposals, h.ledger, h.dispatched]

theorem entriesOn_changedWith (s : Store) (t : Store.Transition) {e : Audit.Entry} {other : Uuid}
    (hp : e.proposalId = some other) (id : Uuid) :
    (s.changedWith t e).entriesOn id =
      s.entriesOn id ++ if other = id then [Store.EntryRow.ofEntry e] else [] := by
  have hrow : (Store.EntryRow.ofEntry e).proposalId = .text other.text := by
    simp only [Store.EntryRow.ofEntry, hp, Option.map_some, Store.Cell.ofText?]
  rw [Store.entriesOn, Store.changedWith, List.filter_append, ← Store.entriesOn, List.filter_singleton, hrow]
  by_cases heq : other = id
  · simp [heq]
  · have hne : (Store.Cell.text other.text == .text id.text) = false :=
      beq_eq_false_iff_ne.mpr fun ht => heq (Store.text_injective (Store.Cell.text.inj ht))
    simp [heq, hne]

theorem file_of_moved {other : Uuid} (h : Moved m d other d')
    (hne : other ≠ id) : d'.file id = d.file id := by
  have hchanged (t : Store.Transition) (ht : t.id = other) :
      (d.store.changed t).rowOf id = d.store.rowOf id :=
    Store.rowOf_changed_of_ne d.store (ht ▸ hne.symm)
  cases h with
  | changed t ht =>
    rcases Store.transition_cases d.store t with ⟨h, -⟩ | ⟨-, h⟩
    · simp only [file, dispatchesOf, h]
    · simp only [file, dispatchesOf, h, hchanged t ht, Store.entriesOn, Store.changed_ledger]
  | recorded t e ht he hp =>
    rcases Store.transitionWithEntry_cases d.store t e with h | ⟨-, h⟩
    · simp only [file, dispatchesOf, h]
    · have hrow : (d.store.changedWith t e).rowOf id = d.store.rowOf id := hchanged t ht
      have hentries := entriesOn_changedWith d.store t hp id
      rw [if_neg hne, List.append_nil] at hentries
      simp only [file, dispatchesOf, h, hrow, hentries]
  | handedOut p hp =>
    have hid : (p.id == id) = false := by rw [hp]; exact beq_eq_false_iff_ne.mpr hne
    simp [file, dispatchesOf, dispatch, hid]

/-- What a step does to a proposal that it does not move: nothing, or it adds it. -/
theorem file_effect {c : Call} (hr : d.store.Ready) (h : Effect m d c d') (hm : c.moves? ≠ some id) :
    d'.file id = d.file id ∨
      ∃ p, c.adds? m = some p ∧ p.id = id ∧ (d.store.insertProposal p).1 = .ok true ∧
        d.store.rowOf id = none ∧ d'.file id = { d.file id with row := some (.ofProposal p) } := by
  -- only an insertion and a move touch a row, and the move is of another proposal
  cases h with
  | quiet _ _ _ h => exact .inl (file_of_quiet h id)
  | moved other _ hmoves _ _ h => exact .inl (file_of_moved h fun heq => hm (heq ▸ hmoves))
  | added p _ ha =>
    rcases Store.insertProposal_cases hr p with h | h
    · exact .inl (by simp only [file, dispatchesOf, h])
    · have hrow := Store.rowOf_append d.store (.ofProposal p) id
      by_cases hid : p.id = id
      · have hnone : d.store.rowOf id = none := hid ▸ Store.rowOf_of_inserted hr (by rw [h])
        refine .inr ⟨p, ha, hid, by rw [h], hnone, ?_⟩
        rw [hnone, Option.none_or, if_pos (Store.isOf_ofProposal.mpr hid)] at hrow
        simp only [file, dispatchesOf, h, hrow, Store.entriesOn]
      · rw [if_neg (mt Store.isOf_ofProposal.mp hid), Option.or_none] at hrow
        exact .inl (by simp only [file, dispatchesOf, h, hrow, Store.entriesOn])

end Desk

open Desk

variable {d : Desk} {m : Moment} {id : Uuid} {status : Status} {entries : List Store.EntryRow}
  {handed : Nat}

theorem File.Shows.rowOf (h : (d.file id).Shows id status entries handed) :
    ∃ r p, d.store.rowOf id = some r ∧ r.Reads p ∧ p.id = id ∧ p.status = status := h.row

theorem File.Shows.rowOf_ne (h : (d.file id).Shows id status entries handed) :
    d.store.rowOf id ≠ none := by
  obtain ⟨r, p, hrow, -⟩ := h.rowOf
  rw [hrow]
  exact Option.some_ne_none r

theorem changed_shows {t : Store.Transition} {s : Store}
    (h : (d.file id).Shows id t.source entries handed) (ht : t.id = id)
    (hnow : ∀ now, t.decidedAt = some now → now.Sortable)
    (hs : s.proposals = (d.store.changed t).proposals) :
    ({ d with store := s }.file id).Shows id t.target (s.entriesOn id) handed := by
  obtain ⟨r, p, hrow, hreads, hid, hstatus⟩ := h.row
  have hsource : r.status = .text t.source.name := by rw [hreads.status, hstatus]
  have hrow' : s.rowOf id = some (r.apply t) := by
    have hself := Store.rowOf_changed_self (t := t) (ht ▸ hrow) hsource
    rw [← ht, ← hself, Store.rowOf, Store.rowOf, hs]
  exact ⟨⟨r.apply t, t.change p, hrow', hreads.apply hnow, hid, rfl⟩, rfl, h.handed⟩

theorem transition_of_shows {t : Store.Transition} (hr : d.store.Ready)
    (h : (d.file id).Shows id t.source entries handed) (ht : t.id = id)
    (he : t.source.canBecome t.target = true)
    (hnow : ∀ now, t.decidedAt = some now → now.Sortable) :
    ∃ p, p.id = id ∧ d.store.transition t = (.ok (some p), d.store.changed t) ∧
      ({ d with store := d.store.changed t }.file id).Shows id t.target entries handed := by
  have hshows := changed_shows (t := t) h ht hnow rfl
  rw [show (d.store.changed t).entriesOn id = entries from h.entries] at hshows
  obtain ⟨r, p, hrow, hreads, hid, hstatus⟩ := h.rowOf
  refine ⟨t.change p, hid, ?_, hshows⟩
  have hsource : r.status = .text t.source.name := by rw [hreads.status, hstatus]
  rw [Store.transition_eq hr.toKeyed hr.hasProposals he, ht, hrow]
  dsimp only
  rw [if_pos hsource, Store.read_ok.mpr (hreads.apply hnow)]
  rfl

theorem transition_of_shows_ne {t : Store.Transition} (hr : d.store.Ready)
    (h : (d.file id).Shows id status entries handed) (ht : t.id = id)
    (he : t.source.canBecome t.target = true) (hne : status ≠ t.source) :
    d.store.transition t = (.ok none, d.store) := by
  obtain ⟨r, p, hrow, hreads, hid, hstatus⟩ := h.rowOf
  rw [Store.transition_eq hr.toKeyed hr.hasProposals he, ht, hrow]
  dsimp only
  rw [if_neg]
  intro hs
  exact hne (hstatus ▸ hreads.status_eq hs)

theorem recorded_shows {t : Store.Transition} {e : Audit.Entry} (hr : d.store.Ready)
    (h : (d.file id).Shows id t.source entries handed) (ht : t.id = id)
    (he : t.source.canBecome t.target = true)
    (hnow : ∀ now, t.decidedAt = some now → now.Sortable) (hp : e.proposalId = some id)
    (hu : d.store.Unused e.id) :
    ∃ s', d.store.transitionWithEntry t e = (.ok true, s') ∧
      ({ d with store := s' }.file id).Shows id t.target (entries ++ [Store.EntryRow.ofEntry e])
        handed := by
  obtain ⟨r, p, hrow, hreads, hid, hstatus⟩ := h.rowOf
  have hsource : r.status = .text t.source.name := by rw [hreads.status, hstatus]
  have hrec : d.store.Recordable t e :=
    ⟨he, hr.hasProposals, hr.hasLedger,
      ⟨r, t.change p, ht ▸ hrow, hsource, Store.read_ok.mpr (hreads.apply hnow)⟩, hu⟩
  refine ⟨_, Store.transitionWithEntry_of_recordable hr.toKeyed hrec, ?_⟩
  have hshows := changed_shows (s := d.store.changedWith t e) h ht hnow rfl
  rw [entriesOn_changedWith d.store t hp id, if_pos rfl,
    show d.store.entriesOn id = entries from h.entries] at hshows
  exact hshows

theorem record_of_shows_ne {t : Store.Transition} (e : Audit.Entry) (hr : d.store.Ready)
    (h : (d.file id).Shows id status entries handed) (ht : t.id = id)
    (he : t.source.canBecome t.target = true) (hne : status ≠ t.source) :
    d.store.transitionWithEntry t e = (.ok false, d.store) := by
  simp only [Store.transitionWithEntry, transition_of_shows_ne hr h ht he hne]

theorem found_of_shows (hr : d.store.Ready) (h : (d.file id).Shows id status entries handed) :
    ∃ p, Review.found d.store id = .ok p ∧ p.id = id ∧ p.status = status := by
  obtain ⟨r, p, hrow, hreads, hid, hstatus⟩ := h.rowOf
  refine ⟨p, ?_, hid, hstatus⟩
  have hget := (Store.getProposal_some hr.hasProposals).mpr ⟨r, hrow, hreads⟩
  simp only [Review.found, hget]

theorem transition_of_absent {t : Store.Transition} (hr : d.store.Ready)
    (hrow : d.store.rowOf t.id = none) (he : t.source.canBecome t.target = true) :
    d.store.transition t = (.ok none, d.store) := by
  rw [Store.transition_eq hr.toKeyed hr.hasProposals he, hrow]

/-! The steps of decisions on a proposal, from where it stands. -/

section Steps

variable (reg : Registry) (reviewer reason : Option String) {target : Status}

theorem approve_step_pending (hr : d.store.Ready)
    (h : (d.file id).Shows id .pending entries handed) (hnow : m.now.Sortable) :
    ∃ p d', Review.step reg m d (.approve id reviewer) = (.tellApproved p reviewer, d') ∧
      p.id = id ∧ (d'.file id).Shows id .approved entries handed := by
  obtain ⟨p, hid, ht, hshows⟩ := transition_of_shows (t := Review.claim id reviewer m.now) hr h rfl
    rfl (by rintro _ ⟨⟩; exact hnow)
  exact ⟨p, _, by simp only [Review.step, Desk.on, ht], hid, hshows⟩

theorem approve_step_decided (hr : d.store.Ready) (h : (d.file id).Shows id status entries handed)
    (hs : status ≠ .pending) :
    Review.step reg m d (.approve id reviewer) = (.refuse id .approved, d) := by
  have ht := transition_of_shows_ne (t := Review.claim id reviewer m.now) hr h rfl rfl hs
  simp only [Review.step, Desk.on, ht]

theorem approve_step_absent (hr : d.store.Ready) (hrow : d.store.rowOf id = none) :
    Review.step reg m d (.approve id reviewer) = (.refuse id .approved, d) := by
  have ht := transition_of_absent (t := Review.claim id reviewer m.now) hr hrow rfl
  simp only [Review.step, Desk.on, ht]

theorem carryOut_step {p : Proposal} (h : (d.file id).Shows id status entries handed)
    (hp : p.id = id) :
    ∃ o d', Review.step reg m d (.carryOut p reviewer) = (.settle p reviewer o, d') ∧
      (d'.file id).Shows id status entries (handed + 1) := by
  refine ⟨_, _, rfl, h.row, h.entries, ?_⟩
  have hcount := h.handed
  simp only [file, dispatchesOf] at hcount
  simp [file, dispatchesOf, dispatch, hp, hcount]

/-- The end of an approved proposal is written down by whoever has it. -/
theorem settle_step {p : Proposal} {o : Outcome} (hr : d.store.Ready)
    (h : (d.file id).Shows id .approved entries handed) (hp : p.id = id)
    (hu : d.store.Unused m.fresh) :
    ∃ e d', Review.step reg m d (.settle p reviewer o) = (.tellSettled p o, d') ∧
      e.outcome = .text (Review.statusOf o).name ∧
      (d'.file id).Shows id (Review.statusOf o) (entries ++ [e]) handed := by
  have he : (Review.ending p.id o).source.canBecome (Review.ending p.id o).target = true := by
    simp only [Review.ending, Review.statusOf]
    split <;> rfl
  obtain ⟨s', ht, hshows⟩ := recorded_shows (t := Review.ending p.id o)
    (e := .ofExecution m.fresh p (.ofReviewer reviewer) o m.now) hr h hp he (by rintro _ ⟨⟩)
    (congrArg some hp) hu
  exact ⟨_, _, by simp only [Review.step, Desk.on, ht], rfl, hshows⟩

theorem reject_step_pending (hr : d.store.Ready)
    (h : (d.file id).Shows id .pending entries handed) :
    ∃ p, Review.step reg m d (.reject id reviewer reason) = (.dismiss p reviewer reason, d) ∧
      p.id = id := by
  obtain ⟨p, hf, hid, hstatus⟩ := found_of_shows hr h
  exact ⟨p, by simp only [Review.step, hf, hstatus, Status.canBecome, if_true], hid⟩

theorem reject_step_decided (hr : d.store.Ready) (h : (d.file id).Shows id status entries handed)
    (hs : status ≠ .pending) :
    Review.step reg m d (.reject id reviewer reason) =
      (.done (.error (.conflict id status .rejected)), d) := by
  obtain ⟨p, hf, hid, hstatus⟩ := found_of_shows hr h
  have hc : status.canBecome .rejected = false := by cases status <;> first | rfl | exact absurd rfl hs
  simp only [Review.step, hf, hstatus, hc, if_neg Bool.false_ne_true]

theorem reject_step_absent (hr : d.store.Ready) (hrow : d.store.rowOf id = none) :
    Review.step reg m d (.reject id reviewer reason) = (.done (.error (.notFound id)), d) := by
  have hget : d.store.getProposal id = .ok none := by
    rw [Store.getProposal_eq hr.hasProposals, hrow]
  simp only [Review.step, Review.found, hget]

theorem dismiss_step_pending {p : Proposal} (hr : d.store.Ready)
    (h : (d.file id).Shows id .pending entries handed) (hp : p.id = id) (hnow : m.now.Sortable)
    (hu : d.store.Unused m.fresh) :
    ∃ e d', Review.step reg m d (.dismiss p reviewer reason) = (.tellRejected id, d') ∧
      e.outcome = .text Status.rejected.name ∧
      (d'.file id).Shows id .rejected (entries ++ [e]) handed := by
  subst hp
  obtain ⟨s', ht, hshows⟩ := recorded_shows (t := Review.rejection p.id reviewer m.now)
    (e := .ofRejection m.fresh p (.ofReviewer reviewer) reason m.now) hr h rfl rfl
    (by rintro _ ⟨⟩; exact hnow) rfl hu
  exact ⟨_, _, by simp only [Review.step, Desk.on, ht], rfl, hshows⟩

theorem dismiss_step_decided {p : Proposal} (hr : d.store.Ready)
    (h : (d.file id).Shows id status entries handed) (hp : p.id = id) (hs : status ≠ .pending) :
    Review.step reg m d (.dismiss p reviewer reason) = (.refuse id .rejected, d) := by
  subst hp
  have ht := record_of_shows_ne (t := Review.rejection p.id reviewer m.now)
    (.ofRejection m.fresh p (.ofReviewer reviewer) reason m.now) hr h rfl rfl hs
  simp only [Review.step, Desk.on, ht]

theorem dismiss_step_absent {p : Proposal} (hr : d.store.Ready)
    (hrow : d.store.rowOf p.id = none) :
    Review.step reg m d (.dismiss p reviewer reason) = (.refuse p.id .rejected, d) := by
  have ht := transition_of_absent (t := Review.rejection p.id reviewer m.now) hr hrow rfl
  simp only [Review.step, Desk.on, Store.transitionWithEntry, ht]

theorem refuse_step (hr : d.store.Ready) (h : (d.file id).Shows id status entries handed) :
    Review.step reg m d (.refuse id target) = (.done (.error (.conflict id status target)), d) := by
  obtain ⟨p, hf, hid, hstatus⟩ := found_of_shows hr h
  simp only [Review.step, Review.refusal, hf, hstatus]

theorem reread_step (hr : d.store.Ready) (h : (d.file id).Shows id status entries handed) :
    ∃ p, Review.step reg m d (.reread id) = (.done (.ok p), d) ∧ p.id = id ∧ p.status = status := by
  obtain ⟨p, hf, hid, hstatus⟩ := found_of_shows hr h
  exact ⟨p, by simp only [Review.step, hf], hid, hstatus⟩

end Steps

end Signoff
