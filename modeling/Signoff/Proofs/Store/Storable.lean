import Mathlib
import Signoff.Decision
import Signoff.Store.Policies
import Signoff.Proofs.Json.RoundTrip
import Signoff.Proofs.Store.Reading

/-!
Proposals that can be read back once they are written. Those that batches make out of records in
JSON are such proposals, and so are those that retries make out of what was read.
-/

namespace Signoff

open Json

/-- JSON that is read back from what is written for it. -/
abbrev Legible (v : Json) : Prop := Fits (maxLevels - 1) v

/-- A proposal that can be read back from its row. -/
structure Proposal.Storable (p : Proposal) : Prop where
  summary : Legible (.obj p.summary)
  params : Legible p.params
  created : p.created.Sortable
  decidedAt : ∀ now, p.decidedAt = some now → now.Sortable

/-- A match that makes proposals which can be read back. -/
structure Match.Storable (f : Match) : Prop where
  summary : Legible (.obj f.record.summary)
  params : Legible f.params

/-- A record whose attributes were read from a text. -/
def Record.Written (r : Record) : Prop := ∃ text, parse? text = some (.obj r.attributes)

/-- A record without attributes can be read. -/
theorem Record.written_bare (id : String) : (⟨id, []⟩ : Record).Written :=
  ⟨_, parse?_render (.obj List.Pairwise.nil (by simp))⟩

theorem Match.Storable.ofMatch {f : Match} (h : f.Storable) (id : Uuid) {now : Instant}
    (hnow : now.Sortable) : (Proposal.ofMatch id f now).Storable :=
  ⟨h.summary, h.params, hnow, by rintro _ ⟨⟩⟩

namespace Store

/-- The row of a proposal reads as the proposal; a zero in it has no sign. -/
theorem read_ofProposal {p : Proposal} (h : p.Storable) :
    (ProposalRow.ofProposal p).Reads
      { p with confidence := if p.confidence.magnitude = 0 then .zero else p.confidence } where
  id := ⟨_, rfl, Uuid.ofText?_text p.id⟩
  recordId := rfl
  summary := ⟨_, _, rfl, parse?_render h.summary, rfl⟩
  actionType := rfl
  params := ⟨_, rfl, parse?_render h.params⟩
  policyId := (integer?_ofInt? p.policyId).symm
  confidence := rfl
  rationale := rfl
  status := rfl
  created := ⟨_, rfl, Instant.ofRfc3339?_sortableText h.created⟩
  decidedAt := readOptional_ofText? fun now hnow =>
    readInstant_ok.mpr (Instant.ofRfc3339?_sortableText (h.decidedAt now hnow))
  decidedBy := (text?_ofText? p.decidedBy).symm
  error := (text?_ofText? p.error).symm
  retryOf := readOptional_ofText? fun id _ => readUuid_ok.mpr (Uuid.ofText?_text id)

theorem legible_summaryOf {v : Json} (h : Legible v) : Legible (.obj (ProposalRow.summaryOf v)) := by
  have hempty : Legible (.obj []) := .obj List.Pairwise.nil (by simp)
  cases v with
  | obj members => exact h
  | _ => exact hempty

/-- What was read can be read again. -/
theorem ProposalRow.Reads.legible {r : ProposalRow} {p : Proposal} (h : r.Reads p) :
    Legible (.obj p.summary) ∧ Legible p.params := by
  obtain ⟨s, v, -, hv, hsummary⟩ := h.summary
  obtain ⟨s', -, hparams⟩ := h.params
  have hlegible := legible_summaryOf (fits_of_parse? hv)
  rw [← hsummary] at hlegible
  exact ⟨hlegible, fits_of_parse? hparams⟩

/-- What was read can be written again, as a new proposal. -/
theorem ProposalRow.Reads.retried {r : ProposalRow} {p : Proposal} (h : r.Reads p) (id : Uuid)
    {now : Instant} (hnow : now.Sortable) : (p.retried id now).Storable :=
  ⟨h.legible.1, h.legible.2, hnow, by rintro _ ⟨⟩⟩

theorem legible_params {r : PolicyRow} {p : Policy} (h : r.read = .ok p) : Legible p.body.params := by
  simp only [PolicyRow.read, bind_ok, readJson_ok] at h
  obtain ⟨_, -, _, -, text, -, _, -, _, -, _, -, _, -, _, -, _, -, params, hparams, h⟩ := h
  obtain ⟨_, -, _, -, _, -, _, -, h⟩ := h
  cases h
  exact fits_of_parse? hparams

/-- Policies that are listed were read from rows. -/
theorem mem_of_listPolicies {s : Store} {enabledOnly : Bool} {policies : List Policy}
    (h : s.listPolicies enabledOnly = .ok policies) {p : Policy} (hp : p ∈ policies) :
    ∃ r ∈ s.policies, r.read = .ok p := by
  simp only [listPolicies, bind_ok] at h
  obtain ⟨_, -, h⟩ := h
  cases h
  obtain ⟨r, hr, hread⟩ := List.mem_filterMap.mp hp
  refine ⟨r, ?_, ?_⟩
  · rw [List.mem_mergeSort] at hr
    split_ifs at hr
    · exact List.mem_of_mem_filter hr
    · exact hr
  · cases hread' : r.read with
    | error e =>
      rw [hread'] at hread
      cases hread
    | ok q =>
      rw [hread'] at hread
      cases hread
      rfl

theorem legible_listed {s : Store} {enabledOnly : Bool} {policies : List Policy}
    (h : s.listPolicies enabledOnly = .ok policies) {p : Policy} (hp : p ∈ policies) :
    Legible p.body.params := by
  obtain ⟨r, -, hread⟩ := mem_of_listPolicies h hp
  exact legible_params hread

end Store

namespace Context

theorem fits_child {levels : Nat} {v w : Json} {name : String} (hv : Fits (levels + 1) v)
    (h : child? name v = some w) : Fits levels w := by
  cases hv with
  | arr fit =>
    obtain ⟨i, -, hi⟩ := Option.bind_eq_some_iff.mp h
    exact fit w (List.mem_of_getElem? hi)
  | obj sorted fit => exact fit _ (Object.mem_of_get? h)
  | _ => cases h

theorem fits_follow {names : List String} {levels : Nat} {v w : Json} (hv : Fits levels v)
    (h : follow? names v = some w) : Fits levels w := by
  induction names generalizing levels v with
  | nil =>
    cases h
    exact hv
  | cons name names ih =>
    obtain ⟨u, hu, hw⟩ := Option.bind_eq_some_iff.mp h
    exact ih (fits_child hv.succ hu) hw

/-- What a path leads to lies a level deeper. -/
theorem fits_lookup {ctx : Context} {levels : Nat} {path : String} {v : Json}
    (hctx : Fits (levels + 1) (.obj ctx.values)) (h : ctx.lookup? path = some v) : Fits levels v := by
  obtain ⟨p, -, hv⟩ := Option.bind_eq_some_iff.mp h
  obtain ⟨name, names, hnames⟩ := List.exists_cons_of_ne_nil p.segments_ne_nil
  rw [resolve?, hnames] at hv
  obtain ⟨u, hu, hv⟩ := Option.bind_eq_some_iff.mp hv
  exact fits_follow (fits_child hctx hu) hv

theorem fits_ofRecord {levels : Nat} {r : Record} (h : Fits (levels + 1) (.obj r.attributes))
    (now : Instant) : Fits (levels + 1) (.obj (ofRecord r now).values) := by
  have hid := h.insert "record_id" (.str levels r.id)
  rw [ofRecord, ofValues]
  dsimp only
  split
  · exact (hid.insert _ (.str _ _)).insert _ (.str _ _)
  · exact hid.insert _ (.str _ _)

end Context

theorem legible_summary {ctx : Context} (h : Legible (.obj ctx.values)) (id : String) :
    Legible (.obj (Snapshot.ofContext id ctx).summary) := by
  refine .ofMembers fun m hm => ?_
  obtain ⟨name, -, hname⟩ := List.mem_filterMap.mp hm
  obtain ⟨v, hv, rfl⟩ := Option.map_eq_some_iff.mp hname
  exact Context.fits_lookup h hv

namespace Decision

theorem mem_of_scan {floor : Floor} {ctx : Context} {policies : List Policy} {t : Trace}
    {p : Policy} (h : (scan floor ctx policies t).1 = some p) : p ∈ policies := by
  induction policies generalizing t with
  | nil => cases h
  | cons q rest ih =>
    rw [scan] at h
    split_ifs at h with hfloor
    · exact List.mem_cons_of_mem _ (ih h)
    · split at h
      · cases h
        exact List.mem_cons_self
      · exact List.mem_cons_of_mem _ (ih h)

/-- Decisions on records that were written, by policies that were read, can be stored. -/
theorem storable_decideAll {floor : Floor} {records : List Record} {policies : List Policy}
    (now : Instant) (hrecords : ∀ r ∈ records, r.Written)
    (hpolicies : ∀ p ∈ policies, Legible p.body.params) :
    ∀ x ∈ decideAll floor records policies now, ∀ f, x.found = some f → f.Storable := by
  intro x hx f hf
  obtain ⟨r, hr, rfl⟩ := List.mem_map.mp hx
  obtain ⟨p, hp, rfl⟩ := Option.map_eq_some_iff.mp hf
  obtain ⟨text, htext⟩ := hrecords r hr
  have hctx : Legible (.obj (Context.ofRecord r now).values) :=
    Context.fits_ofRecord (fits_of_parse? htext) now
  exact ⟨legible_summary hctx r.id,
    hpolicies p (Policy.mem_inForce.mp (mem_of_scan hp)).1⟩

end Decision

end Signoff
