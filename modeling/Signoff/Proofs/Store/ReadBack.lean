import Mathlib
import Signoff.Execution.Webhook
import Signoff.Store.Ledger
import Signoff.Proofs.Store.Operations
import Signoff.Proofs.Store.Storable

/-!
Entries of the ledger that are read back. Writing puts no limit on a payload, reading does: what was
written comes back as it was, or, when the payload is nested too deep, not at all, and then no query
that picks the entry is answered.
-/

namespace Signoff

open Json

namespace Actor

theorem fits_toJson (a : Actor) : Fits 1 a.toJson := by
  cases a with
  | system => exact .ofMembers (by simp [Fits.str])
  | user id => exact .ofMembers (by simp [Fits.str])

theorem toJson_user (id : String) :
    (user id).toJson = .obj [("id", .str id), ("kind", .str "user")] := by
  have horder : "id" < "kind" := by decide
  simp [toJson, Json.ofMembers, Object.ofList, Object.insert, horder]

theorem ofText_toJson (a : Actor) : decoder.ofText a.toJson.render = .ok a := by
  unfold Decoder.ofText
  rw [Document.ofText_render a.fits_toJson]
  cases a with
  | system => rfl
  | user id =>
    rw [toJson_user]
    rfl

end Actor

namespace Audit.Entry

/-- An entry that can be written so that only its payload may fail to come back. -/
structure Regular (e : Entry) : Prop where
  /-- A zero without a sign, or no zero. -/
  confidence : Store.Cell.ofDouble e.confidence = .real e.confidence
  created : e.created.Sortable
  payload : ∃ levels, Fits levels e.payload

variable {id : Uuid} {p : Proposal} {actor : Actor} {o : Outcome} {reason : Option String}
  {now : Instant}

/-- The payload about an action that was carried out, its members in the order of their names. -/
theorem payload_ofExecution :
    (ofExecution id p actor o now).payload =
      .obj [("error", .ofText? o.error), ("params", p.params),
        ("response", o.response.getD .null), ("success", .bool o.success)] := by
  have hnames : "error" < "success" ∧ ¬ "response" < "error" ∧ "response" < "success" ∧
      ¬ "params" < "error" ∧ "params" < "response" := by decide
  obtain ⟨h₁, h₂, h₃, h₄, h₅⟩ := hnames
  simp only [ofExecution, ofProposal, Json.ofMembers, Object.ofList, List.foldl, Object.insert,
    if_pos h₁, if_neg h₂, if_pos h₃, if_neg h₄, if_pos h₅, String.reduceEq, if_false]

/-- It holds the answer of the handler as it came. -/
theorem response_ofExecution :
    Webhook.member? (some (ofExecution id p actor o now).payload) "response" =
      some (o.response.getD .null) := by
  rw [payload_ofExecution]
  simp [Webhook.member?, Object.get?]

/-- It lies a level above the answer of the handler and the parameters of the action. -/
theorem fits_ofExecution {levels : Nat} :
    Fits (levels + 1) (ofExecution id p actor o now).payload ↔
      Fits levels (o.response.getD .null) ∧ Fits levels p.params := by
  rw [payload_ofExecution]
  constructor
  · intro h
    cases h with
    | obj sorted fit =>
      exact ⟨fit ("response", o.response.getD .null) (by simp), fit ("params", p.params) (by simp)⟩
  · rintro ⟨hresponse, hparams⟩
    -- as it is made out of its members, the order comes for free
    rw [← @payload_ofExecution id p actor o now]
    refine .ofMembers ?_
    simp only [List.forall_mem_cons]
    exact ⟨.bool _ _, .ofText? _ _, hresponse, hparams, by simp⟩

theorem legible_ofRejection : Legible (ofRejection id p actor reason now).payload := by
  refine .ofMembers ?_
  simp only [List.forall_mem_cons]
  exact ⟨.ofText? _ _, by simp⟩

theorem regular_ofRejection (hconfidence : Store.Cell.ofDouble p.confidence = .real p.confidence)
    (hnow : now.Sortable) : (ofRejection id p actor reason now).Regular :=
  ⟨hconfidence, hnow, _, legible_ofRejection⟩

end Audit.Entry

namespace Store

theorem readActor_toJson (a : Actor) : EntryRow.readActor a.toJson.render = .ok a := by
  rw [EntryRow.readActor, a.ofText_toJson]
  rfl

/-- Of the columns of an entry only the payload may fail to read. -/
theorem read_ofEntry {e : Audit.Entry} (h : e.Regular) :
    (EntryRow.ofEntry e).read =
      (readJson e.payload.render).map fun payload => { e with payload := payload } := by
  have hid : readUuid e.id.text = .ok e.id := readUuid_ok.mpr (Uuid.ofText?_text e.id)
  have hproposal : readOptional readUuid (.ofText? (e.proposalId.map (·.text))) = .ok e.proposalId :=
    readOptional_ofText? fun id _ => readUuid_ok.mpr (Uuid.ofText?_text id)
  have houtcome : readStatus e.outcome.name = .ok e.outcome := readStatus_ok.mpr rfl
  have hcreated : readInstant e.created.sortableText = .ok e.created :=
    readInstant_ok.mpr (Instant.ofRfc3339?_sortableText h.created)
  -- the columns are read in their order; each of them but the payload is rewritten to its value
  have htext (s : String) : (Cell.text s).text? = some s := rfl
  have hreal (x : Double) : (Cell.real x).real? = some x := rfl
  have hneed {α : Type} (what : String) (a : α) : need what (some a) = .ok a := rfl
  have hbind {α β : Type} (a : α) (f : α → Except Error β) : (Except.ok a >>= f) = f a := rfl
  simp only [EntryRow.read, EntryRow.ofEntry, instantCell, h.confidence, hproposal, htext, hreal,
    hneed, hbind, integer?_ofInt?, text?_ofText?, readActor_toJson, hid, houtcome, hcreated]
  cases readJson e.payload.render <;> rfl

theorem read_ofEntry_of_legible {e : Audit.Entry} (h : e.Regular) (hl : Legible e.payload) :
    (EntryRow.ofEntry e).read = .ok e := by
  rw [read_ofEntry h, readJson, parse?_render hl]
  rfl

theorem read_ofEntry_of_not_legible {e : Audit.Entry} (h : e.Regular) (hl : ¬ Legible e.payload) :
    (EntryRow.ofEntry e).read = .error .badJson := by
  obtain ⟨levels, hfits⟩ := h.payload
  rw [read_ofEntry h, readJson, parse?_render_of_not_fits hfits hl]
  rfl

/-- What a query answers that picks these entries: all of them, or that one of them cannot be
read. -/
inductive Answered (picked : List Audit.Entry) : Except Error (List Audit.Entry) → Prop
  | read (h : ∀ e ∈ picked, Legible e.payload) : Answered picked (.ok picked)
  | garbled (e : Audit.Entry) (he : e ∈ picked) (h : ¬ Legible e.payload) :
    Answered picked (.error .badJson)

theorem answered_mapM {entries : List Audit.Entry} (h : ∀ e ∈ entries, e.Regular) :
    Answered entries ((entries.map EntryRow.ofEntry).mapM (·.read)) := by
  induction entries with
  | nil => exact .read (by simp)
  | cons e rest ih =>
    have hrest := ih fun f hf => h f (List.mem_cons_of_mem _ hf)
    rw [List.map_cons, List.mapM_cons]
    generalize (rest.map EntryRow.ofEntry).mapM (·.read) = answer at hrest
    -- the first entry that cannot be read ends the query
    by_cases hl : Legible e.payload
    · rw [read_ofEntry_of_legible (h e List.mem_cons_self) hl]
      cases hrest with
      | read hall => exact .read (List.forall_mem_cons.mpr ⟨hl, hall⟩)
      | garbled f hf hdeep => exact .garbled f (List.mem_cons_of_mem _ hf) hdeep
    · rw [read_ofEntry_of_not_legible (h e List.mem_cons_self) hl]
      exact .garbled e List.mem_cons_self hl

/-- The newest entries that are asked for. -/
def asked (f : Audit.Filter) (entries : List Audit.Entry) : List Audit.Entry :=
  (newestFirst (fun e e' => (EntryRow.ofEntry e).newer (.ofEntry e'))
    (entries.filter fun e => (EntryRow.ofEntry e).meets f)).take f.effectiveLimit

/-- Sorting rows is sorting entries by their rows. -/
theorem sorted_written (le : EntryRow → EntryRow → Bool) (entries : List Audit.Entry) :
    (entries.map EntryRow.ofEntry).mergeSort le =
      (entries.mergeSort fun e f => le (.ofEntry e) (.ofEntry f)).map EntryRow.ofEntry := by
  symm
  apply List.map_mergeSort
  intro e _ f _
  rfl

theorem mem_of_mem_asked {entries : List Audit.Entry} {f : Audit.Filter} {e : Audit.Entry}
    (h : e ∈ asked f entries) : e ∈ entries := by
  have hsorted := List.mem_of_mem_take h
  rw [newestFirst, List.mem_mergeSort, List.mem_reverse] at hsorted
  exact List.mem_of_mem_filter hsorted

theorem answered_listEntries {s : Store} {entries : List Audit.Entry}
    (ht : s.schema.has .ledger = true) (hs : s.ledger = entries.map .ofEntry)
    (h : ∀ e ∈ entries, e.Regular) (f : Audit.Filter) :
    Answered (asked f entries) (s.listEntries f) := by
  have hrows : (newestFirst EntryRow.newer (s.ledger.filter (·.meets f))).take f.effectiveLimit =
      (asked f entries).map .ofEntry := by
    rw [hs, List.filter_map, asked, newestFirst, newestFirst, List.map_take, ← List.map_reverse,
      sorted_written]
    rfl
  have hquery : s.listEntries f = ((asked f entries).map EntryRow.ofEntry).mapM (·.read) := by
    rw [← hrows, listEntries, requires, if_pos ht]
    rfl
  rw [hquery]
  exact answered_mapM fun e he => h e (mem_of_mem_asked he)

end Store
end Signoff
