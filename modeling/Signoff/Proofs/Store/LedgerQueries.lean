import Mathlib
import Signoff.Proofs.Policy.Draft
import Signoff.Proofs.Store.AuditedTransition
import Signoff.Proofs.Store.Description
import Signoff.Proofs.Store.Listing
import Signoff.Proofs.Store.ReadBack

/-!
What queries for entries answer. Of the entries that were written, a query gives the newest of those
that are asked for, as many as its limit says. The ends of a time span are compared as texts. Up to
the year 9999 that is the order of time; an end after it comes before every text of a table, so that
as a beginning it leaves nothing out, and as an end it leaves out everything.
-/

namespace Signoff

namespace Audit

/-- The entry without the sign of a zero, as it comes out of a row. -/
def Entry.unsigned (e : Entry) : Entry := { e with confidence := e.confidence.unsigned }

namespace Filter

/-- The ends of the time span are instants of the calendar. -/
structure Proper (f : Filter) : Prop where
  since : ∀ t ∈ f.since, t.Proper
  till : ∀ t ∈ f.till, t.Proper

/-- The entry is of the kind and of the outcome that are asked for. -/
def Fits (f : Filter) (e : Entry) : Prop :=
  (∀ action ∈ f.actionType, e.actionType = action) ∧ ∀ status ∈ f.status, e.outcome = status

/-- The entry is asked for: it fits, and its instant lies in the time span, ends included. -/
def Admits (f : Filter) (e : Entry) : Prop :=
  f.Fits e ∧ (∀ t ∈ f.since, (t.compare e.created).isLE = true) ∧
    ∀ t ∈ f.till, (e.created.compare t).isLE = true

/-- The entry is found: as it is asked for, but that ends after the year 9999 come first. -/
def Finds (f : Filter) (e : Entry) : Prop :=
  f.Fits e ∧ (∀ t ∈ f.since, t.year ≤ 9999 → (t.compare e.created).isLE = true) ∧
    ∀ t ∈ f.till, t.year ≤ 9999 ∧ (e.created.compare t).isLE = true

theorem finds_iff_admits {f : Filter} (hsince : ∀ t ∈ f.since, t.year ≤ 9999)
    (htill : ∀ t ∈ f.till, t.year ≤ 9999) (e : Entry) : f.Finds e ↔ f.Admits e := by
  rw [Finds, Admits]
  apply and_congr_right
  intro _
  apply and_congr
  · constructor
    · intro h t ht
      exact h t ht (hsince t ht)
    · intro h t ht _
      exact h t ht
  · constructor
    · intro h t ht
      exact (h t ht).2
    · intro h t ht
      exact ⟨htill t ht, h t ht⟩

/-- Asks for all entries since an instant. -/
def starting (t : Instant) : Filter := { any with since := some t }

theorem proper_starting {t : Instant} (ht : t.Proper) : (starting t).Proper := by
  refine ⟨?_, by rintro _ ⟨⟩⟩
  rintro _ ⟨⟩
  exact ht

def sinceMarch : Filter := starting ⟨2026, 60, 0, 0⟩

/-- Begins when years need five digits. -/
def sinceLate : Filter := starting ⟨10000, 1, 0, 0⟩

end Filter

end Audit

namespace Store

/-- These entries, and no others, were written to the ledger, in this order; what else was written
in between went to other tables. -/
inductive Filed : Store → List Audit.Entry → Prop
  | empty {s : Store} (htable : s.schema.has .ledger = true) (h : s.ledger = []) : Filed s []
  | insert {s s' : Store} {entries : List Audit.Entry} {e : Audit.Entry} (h : Filed s entries)
    (hinsert : s.insertEntry e = (.ok (), s')) : Filed s' (entries ++ [e])
  | elsewhere {s s' : Store} {entries : List Audit.Entry} (h : Filed s entries)
    (hschema : s'.schema = s.schema) (hledger : s'.ledger = s.ledger) : Filed s' entries

variable {s : Store} {entries : List Audit.Entry} {e : Audit.Entry} {f : Audit.Filter}

/-- The rows of the ledger are those of the entries, no two of them under one identifier. -/
theorem Filed.rows (h : s.Filed entries) :
    s.schema.has .ledger = true ∧ s.ledger = entries.map .ofEntry ∧
      (entries.map (·.id)).Nodup := by
  induction h with
  | empty htable hnil => exact ⟨htable, hnil, List.nodup_nil⟩
  | @insert s s' entries e h hinsert ih =>
    obtain ⟨htable, hrows, hids⟩ := ih
    rw [insertEntry_eq htable] at hinsert
    split_ifs at hinsert with hnew
    · cases hinsert
      refine ⟨htable, ?_, ?_⟩
      · simp only [hrows, List.map_append, List.map_cons, List.map_nil]
      · rw [List.map_append, List.nodup_append_comm, List.map_singleton, List.singleton_append,
          List.nodup_cons]
        refine ⟨?_, hids⟩
        intro hmem
        obtain ⟨e', he', hid⟩ := List.mem_map.mp hmem
        -- an entry of the same identifier would have its row in the table
        apply hnew (.ofEntry e')
        · rw [hrows]
          exact List.mem_map_of_mem he'
        · rw [EntryRow.ofEntry, hid]
    · cases hinsert
  | elsewhere h hschema hledger ih =>
    rw [hschema, hledger]
    exact ih

theorem ofEntry_unsigned (e : Audit.Entry) : EntryRow.ofEntry e.unsigned = EntryRow.ofEntry e := by
  have hconfidence : Cell.ofDouble e.confidence.unsigned = Cell.ofDouble e.confidence :=
    ofDouble_of_ofDouble rfl
  simp only [EntryRow.ofEntry, Audit.Entry.unsigned, hconfidence]

/-! ### Which entries are found -/

/-- A bound on the time of a row is a bound on its instant, as far as texts are in the order of
time. -/
theorem compare_instantCell {t u : Instant} (ht : t.Sortable) (hu : u.Proper) :
    (instantCell t).compare (instantCell u) = if u.year ≤ 9999 then t.compare u else .gt := by
  have htexts : (instantCell t).compare (instantCell u) =
      Ord.compare t.sortableText u.sortableText := rfl
  rw [htexts]
  split
  · next hyear => exact Instant.compare_sortableText ht hu hyear
  · next hyear => exact Instant.compare_sortableText_of_late ht (by omega)

theorem inBound_instantCell {bound : Option Instant} {created : Instant}
    (hcreated : created.Sortable) (hbound : ∀ t ∈ bound, t.Proper) (accept : Ordering → Bool) :
    inBound bound (instantCell created) accept = true ↔
      ∀ t ∈ bound, accept (if t.year ≤ 9999 then created.compare t else .gt) = true := by
  cases bound with
  | none => simp [inBound]
  | some t =>
    have hcompare := compare_instantCell hcreated (hbound t rfl)
    have hcell : (instantCell created != .null) = true := rfl
    simp [inBound, hcompare, hcell]

theorem meets_iff (he : e.created.Sortable) (hf : f.Proper) :
    (EntryRow.ofEntry e).meets f = true ↔ f.Finds e := by
  have haction : (f.actionType.all fun a => (EntryRow.ofEntry e).actionType == .text a) = true ↔
      ∀ action ∈ f.actionType, e.actionType = action := by
    simp only [EntryRow.ofEntry, Option.all_eq_true, beq_iff_eq, Cell.text.injEq]
    rfl
  have hstatus : (f.status.all fun o => (EntryRow.ofEntry e).outcome == .text o.name) = true ↔
      ∀ status ∈ f.status, e.outcome = status := by
    simp only [EntryRow.ofEntry, Option.all_eq_true, beq_iff_eq, Cell.text.injEq]
    constructor
    · intro h status hmem
      exact name_injective (h status hmem)
    · intro h status hmem
      rw [h status hmem]
  have hsince := inBound_instantCell he hf.since (·.isGE)
  have htill := inBound_instantCell he hf.till (·.isLE)
  -- a row is after each end that is told with five digits: as a beginning it leaves nothing out
  have hbegins : (∀ t ∈ f.since, (if t.year ≤ 9999 then e.created.compare t else .gt).isGE = true) ↔
      ∀ t ∈ f.since, t.year ≤ 9999 → (t.compare e.created).isLE = true := by
    apply forall₂_congr
    intro t _
    split
    · next hyear => simp only [hyear, true_implies, Std.OrientedCmp.isGE_iff_isLE]
    · next hyear => simp only [hyear, false_implies, iff_true]; rfl
  -- and as an end it leaves out everything
  have hends : (∀ t ∈ f.till, (if t.year ≤ 9999 then e.created.compare t else .gt).isLE = true) ↔
      ∀ t ∈ f.till, t.year ≤ 9999 ∧ (e.created.compare t).isLE = true := by
    apply forall₂_congr
    intro t _
    split
    · next hyear => simp only [hyear, true_and]
    · next hyear => simp only [hyear, false_and, iff_false]; decide
  have hcreated : (EntryRow.ofEntry e).created = instantCell e.created := rfl
  simp only [EntryRow.meets, Bool.and_eq_true, haction, hstatus, hcreated, hsince, htill, hbegins,
    hends, Audit.Filter.Finds, Audit.Filter.Fits, and_assoc]

/-! ### What is answered -/

/-- The rows that a query picks are those of the newest entries that it finds. -/
theorem newest_asked (hids : (entries.map (·.id)).Nodup)
    (hcreated : ∀ e ∈ entries, e.created.Sortable) (hf : f.Proper) :
    ∃ all, Newest Audit.Entry.created f.Finds entries all ∧
      asked f entries = all.take f.effectiveLimit := by
  have hnewest : Newest Audit.Entry.created (fun e => (EntryRow.ofEntry e).meets f = true) entries
      (newestFirst (fun e e' => (EntryRow.ofEntry e).newer (.ofEntry e'))
        (entries.filter fun e => (EntryRow.ofEntry e).meets f)) := by
    apply newest_newestFirst (List.Nodup.of_map _ hids)
    intro e he e' he' _ _
    have hcompare := compare_instantCell (hcreated e he) (hcreated e' he').toProper
    rw [if_pos (hcreated e' he').year.2] at hcompare
    rw [EntryRow.newer, ← hcompare]
    rfl
  refine ⟨_, ⟨hnewest.nodup, ?_, hnewest.ordered⟩, rfl⟩
  intro e
  rw [hnewest.mem]
  apply and_congr_right
  intro he
  exact meets_iff (hcreated e he) hf

theorem asked_unsigned (f : Audit.Filter) (entries : List Audit.Entry) :
    asked f (entries.map Audit.Entry.unsigned) = (asked f entries).map Audit.Entry.unsigned := by
  have hsort (es : List Audit.Entry) :
      (es.map Audit.Entry.unsigned).mergeSort
          (fun e e' => (EntryRow.ofEntry e).newer (.ofEntry e')) =
        (es.mergeSort fun e e' => (EntryRow.ofEntry e).newer (.ofEntry e')).map
          Audit.Entry.unsigned := by
    symm
    apply List.map_mergeSort
    intro e _ e' _
    rw [ofEntry_unsigned, ofEntry_unsigned]
  have hmeets : (fun e => (EntryRow.ofEntry e).meets f) ∘ Audit.Entry.unsigned =
      fun e => (EntryRow.ofEntry e).meets f := by
    funext e
    rw [Function.comp_apply, ofEntry_unsigned]
  rw [asked, asked, newestFirst, newestFirst, List.filter_map, hmeets, ← List.map_reverse, hsort,
    List.map_take]

/-- A query answers with the newest of the entries that it finds, each once and as it was written,
up to its limit; or that one of these cannot be read, when its payload is nested too deep. What it
finds is what is asked for, unless an end of the time span lies after the year 9999. -/
theorem listEntries_newest (h : s.Filed entries)
    (hcreated : ∀ e ∈ entries, e.created.Sortable)
    (hpayload : ∀ e ∈ entries, ∃ levels, Json.Fits levels e.payload) (hf : f.Proper) :
    ∃ all, Newest Audit.Entry.created f.Finds entries all ∧
      ((∀ t ∈ f.since, t.year ≤ 9999) → (∀ t ∈ f.till, t.year ≤ 9999) →
        Newest Audit.Entry.created f.Admits entries all) ∧
      Answered ((all.take f.effectiveLimit).map Audit.Entry.unsigned) (s.listEntries f) := by
  obtain ⟨htable, hrows, hids⟩ := h.rows
  obtain ⟨all, hnewest, hasked⟩ := newest_asked hids hcreated hf
  refine ⟨all, hnewest, ?_, ?_⟩
  · intro hsince htill
    refine ⟨hnewest.nodup, ?_, hnewest.ordered⟩
    intro e
    rw [hnewest.mem, Audit.Filter.finds_iff_admits hsince htill]
  · -- rows have no sign of a zero, so that they are those of the entries without it
    have hrows' : s.ledger = (entries.map Audit.Entry.unsigned).map .ofEntry := by
      rw [hrows, List.map_map]
      apply List.map_congr_left
      intro e _
      exact (ofEntry_unsigned e).symm
    have hregular : ∀ e ∈ entries.map Audit.Entry.unsigned, e.Regular := by
      intro _ hmem
      obtain ⟨e, he, rfl⟩ := List.mem_map.mp hmem
      have hconfidence : Cell.ofDouble e.confidence.unsigned = .real e.confidence.unsigned :=
        ofDouble_of_ofDouble (x := e.confidence) rfl
      exact ⟨hconfidence, hcreated e he, hpayload e he⟩
    have hanswered := answered_listEntries htable hrows' hregular f
    rwa [asked_unsigned, hasked] at hanswered

/-- A store whose ledger has one entry, of the second of March 2026. -/
def sampleLedger : Store := (empty.insertEntry sampleEntry).2

theorem filed_sampleLedger : sampleLedger.Filed [sampleEntry] := by
  have hempty : empty.Filed [] := .empty (by decide) rfl
  have hinsert : empty.insertEntry sampleEntry = (.ok (), sampleLedger) := by
    rw [sampleLedger, insertEntry_eq (by decide)]
    rfl
  exact hempty.insert hinsert

theorem sortable_sampleEntry : sampleEntry.created.Sortable :=
  ⟨⟨by decide, by decide, by decide⟩, by decide⟩

theorem listEntries_newest_sample :
    sampleLedger.Filed [sampleEntry] ∧ Audit.Filter.sinceMarch.Proper ∧
      ∃ all, Newest Audit.Entry.created Audit.Filter.sinceMarch.Finds [sampleEntry] all ∧
        Answered ((all.take 100).map Audit.Entry.unsigned)
          (sampleLedger.listEntries .sinceMarch) := by
  have hf : Audit.Filter.sinceMarch.Proper :=
    Audit.Filter.proper_starting ⟨by decide, by decide, by decide⟩
  have hcreated : ∀ e ∈ [sampleEntry], e.created.Sortable := by
    simp only [List.mem_singleton, forall_eq]
    exact sortable_sampleEntry
  have hpayload : ∀ e ∈ [sampleEntry], ∃ levels, Json.Fits levels e.payload := by
    simp only [List.mem_singleton, forall_eq]
    exact ⟨_, Audit.Entry.legible_ofRejection⟩
  obtain ⟨all, hnewest, -, hanswered⟩ :=
    listEntries_newest filed_sampleLedger hcreated hpayload hf
  exact ⟨filed_sampleLedger, hf, all, hnewest, hanswered⟩

/-- What is asked for since the year 10000 is answered with an entry of the year 2026. -/
theorem late_beginning_ignored :
    sampleLedger.Filed [sampleEntry] ∧ Audit.Filter.sinceLate.Proper ∧
      ¬Audit.Filter.sinceLate.Admits sampleEntry ∧
      sampleLedger.listEntries .sinceLate = .ok [sampleEntry] := by
  have hf : Audit.Filter.sinceLate.Proper :=
    Audit.Filter.proper_starting ⟨by decide, by decide, by decide⟩
  have hmeets : (EntryRow.ofEntry sampleEntry).meets .sinceLate = true := by
    rw [meets_iff sortable_sampleEntry hf]
    refine ⟨⟨by rintro _ ⟨⟩, by rintro _ ⟨⟩⟩, ?_, by rintro _ ⟨⟩⟩
    rintro _ ⟨⟩ hyear
    cases hyear
  have hasked : asked .sinceLate [sampleEntry] = [sampleEntry] := by
    have hlimit : Audit.Filter.sinceLate.effectiveLimit = 100 := rfl
    simp [asked, newestFirst, hmeets, hlimit]
  have hregular : ∀ e ∈ [sampleEntry], e.Regular := by
    simp only [List.mem_singleton, forall_eq]
    exact Audit.Entry.regular_ofRejection (by decide +kernel) sortable_sampleEntry
  obtain ⟨htable, hrows, -⟩ := filed_sampleLedger.rows
  have hanswered := answered_listEntries htable hrows hregular .sinceLate
  rw [hasked] at hanswered
  refine ⟨filed_sampleLedger, hf, ?_, ?_⟩
  · rintro ⟨-, hsince, -⟩
    exact absurd (hsince _ rfl) (by decide)
  · generalize sampleLedger.listEntries .sinceLate = answer at hanswered ⊢
    cases hanswered with
    | read h => rfl
    | garbled e he hdeep =>
      rw [List.mem_singleton.mp he] at hdeep
      exact absurd Audit.Entry.legible_ofRejection hdeep

end Store

end Signoff
