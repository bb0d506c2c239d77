import Mathlib
import Signoff.Proofs.Store.Keys
import Signoff.Proofs.Instant.RoundTrip
import Signoff.Proofs.Json.Fits

/-!
Rows of proposals and what reading them finds. `Reads` tells it column by column, so that a change
of a few columns changes what is read in as many places; a change of status keeps a row readable.
-/

namespace Signoff.Store

theorem need_ok {α : Type} {what : String} {a : Option α} {b : α} :
    need what a = .ok b ↔ a = some b := by
  cases a <;> simp [need]

theorem readJson_ok {s : String} {v : Json} : readJson s = .ok v ↔ Json.parse? s = some v := by
  unfold readJson
  cases Json.parse? s <;> simp

theorem readInstant_ok {s : String} {t : Instant} :
    readInstant s = .ok t ↔ Instant.ofRfc3339? s = some t := by
  unfold readInstant
  cases Instant.ofRfc3339? s <;> simp

theorem readUuid_ok {s : String} {u : Uuid} : readUuid s = .ok u ↔ Uuid.ofText? s = some u := by
  unfold readUuid
  cases Uuid.ofText? s <;> simp

theorem readStatus_ok {s : String} {status : Status} :
    readStatus s = .ok status ↔ s = status.name := by
  unfold readStatus
  cases h : Status.ofName? s with
  | none =>
    simp only [reduceCtorEq, false_iff]
    rintro rfl
    rw [Status.ofName?_name] at h
    cases h
  | some found =>
    simp only [Except.ok.injEq]
    constructor
    · rintro rfl
      exact (Status.name_of_ofName? h).symm
    · rintro rfl
      rw [Status.ofName?_name] at h
      exact (Option.some.inj h).symm

theorem text?_eq_some {c : Cell} {s : String} : c.text? = some s ↔ c = .text s := by
  cases c <;> simp [Cell.text?]

theorem real?_eq_some {c : Cell} {x : Double} : c.real? = some x ↔ c = .real x := by
  cases c <;> simp [Cell.real?]

theorem text?_ofText? (s : Option String) : (Cell.ofText? s).text? = s := by
  cases s <;> rfl

theorem integer?_ofInt? (n : Option Int) : (Cell.ofInt? n).integer? = n := by
  cases n <;> rfl

/-- What an optional column holds reads back when its text does. -/
theorem readOptional_ofText? {α : Type} {read : String → Except Error α} {text : α → String}
    {a : Option α} (h : ∀ b, a = some b → read (text b) = .ok b) :
    readOptional read (.ofText? (a.map text)) = .ok a := by
  cases a with
  | none => rfl
  | some b => simp [readOptional, Cell.ofText?, Cell.text?, h b rfl, Except.map]

/-- What reading a row finds in its columns. -/
structure ProposalRow.Reads (r : ProposalRow) (p : Proposal) : Prop where
  id : ∃ s, r.id = .text s ∧ Uuid.ofText? s = some p.id
  recordId : r.recordId = .text p.recordId
  summary : ∃ s v, r.summary = .text s ∧ Json.parse? s = some v ∧ p.summary = summaryOf v
  actionType : r.actionType = .text p.actionType
  params : ∃ s, r.params = .text s ∧ Json.parse? s = some p.params
  policyId : p.policyId = r.policyId.integer?
  confidence : r.confidence = .real p.confidence
  rationale : r.rationale = .text p.rationale
  status : r.status = .text p.status.name
  created : ∃ s, r.created = .text s ∧ Instant.ofRfc3339? s = some p.created
  decidedAt : readOptional readInstant r.decidedAt = .ok p.decidedAt
  decidedBy : p.decidedBy = r.decidedBy.text?
  error : p.error = r.error.text?
  retryOf : readOptional readUuid r.retryOf = .ok p.retryOf

theorem read_ok {r : ProposalRow} {p : Proposal} : r.read = .ok p ↔ r.Reads p := by
  simp only [ProposalRow.read, bind_ok, need_ok, readJson_ok, readInstant_ok, readUuid_ok,
    readStatus_ok, text?_eq_some, real?_eq_some]
  constructor
  · rintro ⟨id, hid, summary, hsummary, v, hv, params, hparams, status, hstatus, created, hcreated,
      decidedAt, hdecided, retryOf, hretry, u, hu, recordId, hrecord, actionType, haction, w, hw,
      confidence, hconfidence, rationale, hrationale, _, rfl, t, ht, h⟩
    cases h
    exact ⟨⟨id, hid, hu⟩, hrecord, ⟨summary, v, hsummary, hv, rfl⟩, haction, ⟨params, hparams, hw⟩,
      rfl, hconfidence, hrationale, hstatus, ⟨created, hcreated, ht⟩, hdecided, rfl, rfl, hretry⟩
  · cases p
    rintro ⟨⟨id, hid, hu⟩, hrecord, ⟨summary, v, hsummary, hv, rfl⟩, haction, ⟨params, hparams, hw⟩,
      rfl, hconfidence, hrationale, hstatus, ⟨created, hcreated, ht⟩, hdecided, rfl, rfl, hretry⟩
    exact ⟨id, hid, summary, hsummary, v, hv, params, hparams, _, hstatus, created, hcreated, _,
      hdecided, _, hretry, _, hu, _, hrecord, _, haction, _, hw, _, hconfidence, _, hrationale, _,
      rfl, _, ht, rfl⟩

theorem ProposalRow.Reads.id_eq {r : ProposalRow} {p : Proposal} (h : r.Reads p) {id : Uuid}
    (hid : r.isOf id = true) : p.id = id := by
  obtain ⟨s, hs, hu⟩ := h.id
  rw [isOf_iff, hs, Cell.text.injEq] at hid
  rw [hid, Uuid.ofText?_text] at hu
  exact (Option.some.inj hu).symm

theorem name_injective {s t : Status} (h : s.name = t.name) : s = t := by
  have := Status.ofName?_name s
  rw [h, Status.ofName?_name] at this
  exact (Option.some.inj this).symm

theorem ProposalRow.Reads.status_eq {r : ProposalRow} {p : Proposal} (h : r.Reads p)
    {status : Status} (hs : r.status = .text status.name) : p.status = status := by
  rw [h.status, Cell.text.injEq] at hs
  exact name_injective hs

/-- The proposal after a change of status. -/
def Transition.change (t : Transition) (p : Proposal) : Proposal :=
  { p with
    status := t.target
    decidedAt := t.decidedAt.or p.decidedAt
    decidedBy := t.decidedBy.or p.decidedBy
    error := t.error }

/-- A change of status at an instant that sorts leaves a row readable, as the proposal changed. -/
theorem ProposalRow.Reads.apply {r : ProposalRow} {p : Proposal} (h : r.Reads p) {t : Transition}
    (ht : ∀ now, t.decidedAt = some now → now.Sortable) : (r.apply t).Reads (t.change p) where
  id := h.id
  recordId := h.recordId
  summary := h.summary
  actionType := h.actionType
  params := h.params
  policyId := h.policyId
  confidence := h.confidence
  rationale := h.rationale
  status := rfl
  created := h.created
  decidedAt := by
    cases hd : t.decidedAt with
    | none => simpa [ProposalRow.apply, orKept, Transition.change, hd] using h.decidedAt
    | some now =>
      have hread : readInstant now.sortableText = .ok now :=
        readInstant_ok.mpr (Instant.ofRfc3339?_sortableText (ht now hd))
      simp [ProposalRow.apply, orKept, Transition.change, hd, readOptional, Cell.text?, hread,
        Except.map]
  decidedBy := by
    cases hd : t.decidedBy with
    | none => simpa [ProposalRow.apply, orKept, Transition.change, hd] using h.decidedBy
    | some reviewer => simp [ProposalRow.apply, orKept, Transition.change, hd, Cell.text?]
  error := (text?_ofText? t.error).symm
  retryOf := h.retryOf

theorem getProposal_eq {s : Store} (ht : s.schema.has .proposals = true) (id : Uuid) :
    s.getProposal id =
      match s.rowOf id with
      | some r => r.read.map some
      | none => .ok none := by
  simp only [getProposal, requires, ht, if_true, rowOf]
  rfl

theorem getProposal_some {s : Store} (ht : s.schema.has .proposals = true) {id : Uuid}
    {p : Proposal} : s.getProposal id = .ok (some p) ↔ ∃ r, s.rowOf id = some r ∧ r.Reads p := by
  rw [getProposal_eq ht]
  cases s.rowOf id with
  | none => simp
  | some r =>
    simp only [Option.some.injEq, exists_eq_left', ← read_ok]
    cases r.read <;> simp [Except.map]

end Signoff.Store
