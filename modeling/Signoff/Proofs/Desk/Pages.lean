import Mathlib
import Signoff.Proofs.Desk.Effect
import Signoff.Proofs.Store.Frame
import Signoff.Proofs.Store.Listing

/-!
Pages of the list of proposals. The rows of a status, or all rows, stand in the order of the texts
of their times, and a page is the first of them. Texts that the store wrote are in the order of the
instants; a time that somebody else spelled in another way can be read, but need not be in its place.
-/

namespace Signoff

namespace Store

/-- The time of every row is told by a text that is sorted as instants are. -/
def Timed (s : Store) : Prop :=
  ∀ r ∈ s.proposals, ∃ t : Instant, t.Sortable ∧ r.created = instantCell t

/-- The text that tells the time of a row. -/
def ProposalRow.createdText (r : ProposalRow) : String := r.created.text?.getD ""

/-- The proposal of a row is at the status that is asked for, if any is. -/
def AtStatus (status : Option Status) (p : Proposal) : Prop := ∀ st ∈ status, p.status = st

variable {s : Store} {r : ProposalRow} {p : Proposal} {proposal : ProposalRow → Proposal}
  {status : Option Status}

theorem mapM_eq_map {ε α β : Type} {f : α → Except ε β} {g : α → β} {as : List α}
    (h : ∀ a ∈ as, f a = .ok (g a)) : as.mapM f = .ok (as.map g) := by
  induction as with
  | nil => rfl
  | cons a as ih =>
    have hrest := ih fun b hb => h b (List.mem_cons_of_mem _ hb)
    rw [List.mapM_cons, h a List.mem_cons_self, hrest]
    rfl

theorem Latest.congr {α κ : Type} {cmp : κ → κ → Ordering} {key : α → κ} {asked asked' : α → Prop}
    {kept listed : List α} (h : Latest cmp key asked kept listed)
    (hasked : ∀ a ∈ kept, asked a ↔ asked' a) : Latest cmp key asked' kept listed := by
  refine ⟨h.nodup, ?_, h.ordered⟩
  intro a
  rw [h.mem]
  exact and_congr_right (hasked a)

/-! ### The order of rows -/

theorem ProposalRow.Reads.created_eq {t : Instant} (h : r.Reads p) (ht : t.Sortable)
    (hr : r.created = instantCell t) : p.created = t := by
  obtain ⟨text, htext, hread⟩ := h.created
  rw [hr, instantCell, Cell.text.injEq] at htext
  rw [← htext, Instant.ofRfc3339?_sortableText ht] at hread
  exact (Option.some.inj hread).symm

/-- Rows that can be read are told apart by the texts of their times. -/
theorem newer_eq {u : ProposalRow} {q : Proposal} (h : r.Reads p) (h' : u.Reads q) :
    r.newer u = (compare r.createdText u.createdText != .lt) := by
  obtain ⟨text, htext, -⟩ := h.created
  obtain ⟨text', htext', -⟩ := h'.created
  rw [ProposalRow.newer, ProposalRow.createdText, ProposalRow.createdText, htext, htext']
  rfl

/-- Rows that can be read have identifiers, so no row is there twice. -/
theorem Keyed.nodup_proposals (hk : s.Keyed) (h : ∀ r ∈ s.proposals, r.Reads (proposal r)) :
    s.proposals.Nodup := by
  apply hk.proposals.imp_of_mem
  rintro r u hr - hclash rfl
  obtain ⟨text, htext, -⟩ := (h r hr).id
  rw [htext, Cell.text_clashes.mpr rfl] at hclash
  cases hclash

/-- The rows of which pages are shown, in the order of the texts of their times. -/
theorem listProposals_latest (hr : s.Ready) (h : ∀ r ∈ s.proposals, r.Reads (proposal r))
    (status : Option Status) :
    ∃ rows, Latest compare ProposalRow.createdText (fun r => AtStatus status (proposal r))
        s.proposals rows ∧
      ∀ limit, s.listProposals status limit = .ok ((rows.take limit).map proposal) := by
  let asked (r : ProposalRow) : Bool := status.all fun st => r.status == .text st.name
  have hasked : ∀ r ∈ s.proposals, asked r = true ↔ AtStatus status (proposal r) := by
    intro r hrow
    simp only [asked, Option.all_eq_true, beq_iff_eq, (h r hrow).status, Cell.text.injEq]
    apply forall₂_congr
    intro st _
    exact ⟨name_injective, congrArg Status.name⟩
  have hlatest : Latest compare ProposalRow.createdText (fun r => asked r = true) s.proposals
      (newestFirst ProposalRow.newer (s.proposals.filter asked)) := by
    apply latest_newestFirst (hr.toKeyed.nodup_proposals h)
    intro r hrow u hurow _ _
    exact newer_eq (h r hrow) (h u hurow)
  refine ⟨_, hlatest.congr hasked, ?_⟩
  intro limit
  -- without a status nothing is sifted, which is the same as to keep all
  have hlist : s.listProposals status limit =
      ((newestFirst ProposalRow.newer (s.proposals.filter asked)).take limit).mapM (·.read) := by
    unfold listProposals
    rw [requires, if_pos hr.hasProposals]
    cases status with
    | none =>
      have hall : s.proposals.filter asked = s.proposals := List.filter_eq_self.mpr fun _ _ => rfl
      rw [hall]
      rfl
    | some st => rfl
  rw [hlist]
  apply mapM_eq_map
  intro r hmem
  exact read_ok.mpr (h r ((hlatest.mem r).mp (List.mem_of_mem_take hmem)).1)

/-- Texts that the store wrote are in the order of the instants. -/
theorem Timed.compare_createdText (htimed : s.Timed) (h : ∀ r ∈ s.proposals, r.Reads (proposal r)) :
    ∀ r ∈ s.proposals, ∀ u ∈ s.proposals,
      compare r.createdText u.createdText = (proposal r).created.compare (proposal u).created := by
  intro r hrow u hurow
  obtain ⟨t, ht, hcell⟩ := htimed r hrow
  obtain ⟨t', ht', hcell'⟩ := htimed u hurow
  rw [(h r hrow).created_eq ht hcell, (h u hurow).created_eq ht' hcell',
    ← Instant.compare_sortableText ht ht'.toProper ht'.year.2, ProposalRow.createdText,
    ProposalRow.createdText, hcell, hcell']
  rfl

/-- The rows stay where they were written, each with its time, whatever is done to the store. -/
theorem Grows.places {R : Cell → Cell → Prop} {s s' : Store} (h : Grows R s s') :
    (s.proposals.map fun r => (r.id, r.created)) <+:
      s'.proposals.map fun r => (r.id, r.created) := by
  rw [List.prefix_iff_getElem?]
  intro i hi
  rw [List.length_map] at hi
  obtain ⟨r', hi', hfollows⟩ := h.proposals i _ (List.getElem?_eq_getElem hi)
  rw [List.getElem?_map, hi', List.getElem_map, Option.map_some, ← hfollows.fixed]

end Store

namespace Review

/-- How many proposals a page has: as many as are asked for, 100 when nothing is said, but at least
one and at most 1000. -/
def pageSize (limit : Option Nat) : Nat := max 1 (min (limit.getD 100) 1000)

theorem pageSize_mono {limit limit' : Option Nat} (h : limit.getD 100 ≤ limit'.getD 100) :
    pageSize limit ≤ pageSize limit' := by
  unfold pageSize
  omega

end Review

namespace Store

open Review

variable {s : Store} {proposal : ProposalRow → Proposal}

/-- Where every row can be read, the proposals of a status, or all of them, are listed in one order:
by the text of their times, the greatest first, and of equal texts the one that was written last. If
the store wrote these texts, that is the order of the instants. A page is the first of them, as many
as are asked for, so that a larger page begins with the smaller one. And whatever is done to the
store leaves each row where it was written, with its time. -/
theorem list_latest (hr : s.Ready) (hread : ∀ r ∈ s.proposals, r.read = .ok (proposal r))
    (status : Option Status) :
    ∃ rows, Latest compare ProposalRow.createdText (fun r => AtStatus status (proposal r))
        s.proposals rows ∧
      (s.Timed → Newest (fun r => (proposal r).created) (fun r => AtStatus status (proposal r))
        s.proposals rows) ∧
      (∀ limit, Review.list s status limit = .ok ((rows.take (pageSize limit)).map proposal)) ∧
      (∀ limit limit' page page', limit.getD 100 ≤ limit'.getD 100 →
        Review.list s status limit = .ok page → Review.list s status limit' = .ok page' →
        page <+: page') ∧
      ∀ commands, (s.proposals.map fun r => (r.id, r.created)) <+:
        (Command.runAll s commands).proposals.map fun r => (r.id, r.created) := by
  have h : ∀ r ∈ s.proposals, r.Reads (proposal r) := fun r hrow => read_ok.mp (hread r hrow)
  obtain ⟨rows, hlatest, hlist⟩ := listProposals_latest hr h status
  have hpage (limit : Option Nat) :
      Review.list s status limit = .ok ((rows.take (pageSize limit)).map proposal) := hlist _
  refine ⟨rows, hlatest, ?_, hpage, ?_, ?_⟩
  · intro htimed
    exact hlatest.newest (htimed.compare_createdText h)
  · intro limit limit' page page' hle hfirst hsecond
    rw [hpage] at hfirst hsecond
    cases hfirst
    cases hsecond
    exact (List.take_prefix_take_left (pageSize_mono hle)).map proposal
  · intro commands
    exact (Command.grows_runAll s commands).places

/-- Rows that were written in the order of the texts of their times are listed backwards. -/
theorem list_backwards (htable : s.schema.has .proposals = true)
    (h : s.proposals.reverse.Pairwise fun r u => r.newer u = true) :
    Review.list s none none = (s.proposals.reverse.take 100).mapM (·.read) := by
  have hsorted : newestFirst ProposalRow.newer s.proposals = s.proposals.reverse :=
    List.mergeSort_of_pairwise h
  unfold Review.list listProposals
  rw [requires, if_pos htable]
  show ((newestFirst ProposalRow.newer s.proposals).take 100).mapM (·.read) = _
  rw [hsorted]

/-- What reading a row gives; where it fails, the sample. -/
def ProposalRow.shown (r : ProposalRow) : Proposal := r.read.toOption.getD sampleProposal

theorem ProposalRow.read_eq_shown {r : ProposalRow} (h : r.read.toBool = true) :
    r.read = .ok r.shown := by
  unfold shown
  cases hr : r.read with
  | ok p => rfl
  | error e =>
    rw [hr] at h
    cases h

/-- A proposal of an instant, for use in examples. -/
def sampleItem (n : Nat) (created : Instant) : Proposal :=
  { sampleProposal with id := numbered n, recordId := (numbered n).text, created := created }

def marchFirst : Instant := ⟨2026, 60, 0, 0⟩

def marchThird : Instant := ⟨2026, 62, 0, 0⟩

/-- Two proposals of one instant and a later one; the second was approved. -/
def sampleShelf : Store :=
  let s := (empty.insertProposal (sampleItem 1 marchFirst)).2
  let s := (s.insertProposal (sampleItem 2 marchFirst)).2
  let s := (s.insertProposal (sampleItem 3 marchThird)).2
  (s.transition (Review.claim (numbered 2) (some "ann") marchThird)).2

theorem ready_sampleShelf : sampleShelf.Ready :=
  (((ready_empty.insertProposal _).insertProposal _).insertProposal _).transition _

theorem timed_sampleShelf : sampleShelf.Timed := by
  have hcells : sampleShelf.proposals.map (·.created) =
      [instantCell marchFirst, instantCell marchFirst, instantCell marchThird] := by decide +kernel
  have hfirst : marchFirst.Sortable := ⟨⟨by decide, by decide, by decide⟩, by decide⟩
  have hthird : marchThird.Sortable := ⟨⟨by decide, by decide, by decide⟩, by decide⟩
  intro r hr
  have hmem : r.created ∈ sampleShelf.proposals.map (·.created) := List.mem_map_of_mem hr
  rw [hcells] at hmem
  simp only [List.mem_cons, List.not_mem_nil, or_false] at hmem
  rcases hmem with h | h | h
  · exact ⟨_, hfirst, h⟩
  · exact ⟨_, hfirst, h⟩
  · exact ⟨_, hthird, h⟩

theorem list_latest_sample :
    sampleShelf.Ready ∧ (∀ r ∈ sampleShelf.proposals, r.read = .ok r.shown) ∧
      sampleShelf.Timed ∧
      sampleShelf.proposals.map (fun r => (r.shown.id, r.shown.status)) =
        [(numbered 1, .pending), (numbered 2, .approved), (numbered 3, .pending)] ∧
      ∃ rows, Newest (fun r => r.shown.created) (fun r => AtStatus none r.shown)
          sampleShelf.proposals rows ∧
        Review.list sampleShelf none none = .ok ((rows.take 100).map ProposalRow.shown) := by
  have hrows : (∀ r ∈ sampleShelf.proposals, r.read.toBool = true) ∧
      sampleShelf.proposals.map (fun r => (r.shown.id, r.shown.status)) =
        [(numbered 1, .pending), (numbered 2, .approved), (numbered 3, .pending)] := by
    decide +kernel
  have hread : ∀ r ∈ sampleShelf.proposals, r.read = .ok r.shown :=
    fun r hr => ProposalRow.read_eq_shown (hrows.1 r hr)
  obtain ⟨rows, -, hnewest, hlist, -⟩ := list_latest ready_sampleShelf hread none
  exact ⟨ready_sampleShelf, hread, timed_sampleShelf, hrows.2, rows, hnewest timed_sampleShelf,
    hlist none⟩

/-- The shelf after somebody else told the times of the first two in spellings of their own. -/
def respelledShelf : Store :=
  let s := (sampleShelf.edit "proposed_actions" (numbered 1).text "created_at"
    (some "2026-03-02T00:00:00.500000000Z")).2
  (s.edit "proposed_actions" (numbered 2).text "created_at" (some "2026-03-02T00:00:00Z")).2

/-- Every row can be read, as of the year 2026, and yet the second proposal is listed before the
first, which is half a second later. -/
theorem respelled_misplaced :
    (∀ r ∈ respelledShelf.proposals, r.read = .ok r.shown ∧ r.shown.created.year = 2026) ∧
      ¬∃ rows, Newest (fun r => r.shown.created) (fun r => AtStatus none r.shown)
          respelledShelf.proposals rows ∧
        Review.list respelledShelf none none = .ok ((rows.take 100).map ProposalRow.shown) := by
  constructor
  · have hall : ∀ r ∈ respelledShelf.proposals, r.read.toBool = true ∧
        r.shown.created.year = 2026 := by decide +kernel
    exact fun r hr => ⟨ProposalRow.read_eq_shown (hall r hr).1, (hall r hr).2⟩
  · rintro ⟨rows, hnewest, hlist⟩
    have hlisted : ((respelledShelf.proposals.reverse.take 100).mapM ProposalRow.read).toOption.map
        (·.map (·.created)) =
          some [marchThird, ⟨2026, 61, 0, 0⟩, ⟨2026, 61, 0, 500000000⟩] := by decide +kernel
    rw [← list_backwards (by decide +kernel) (by decide +kernel), hlist] at hlisted
    have hcreated : (rows.take 100).map (·.shown.created) =
        [marchThird, ⟨2026, 61, 0, 0⟩, ⟨2026, 61, 0, 500000000⟩] := by
      simpa [Except.toOption, Function.comp_def] using hlisted
    have hordered : ((rows.take 100).map (·.shown.created)).Pairwise fun t u =>
        u.compare t = .lt ∨ t = u := by
      rw [List.pairwise_map]
      apply (hnewest.ordered.sublist (List.take_sublist 100 rows)).imp
      rintro r u (h | ⟨h, -⟩)
      · exact .inl h
      · exact .inr h
    rw [hcreated] at hordered
    revert hordered
    decide

end Store

end Signoff
