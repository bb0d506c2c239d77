import Mathlib
import Signoff.Store.Ledger

/-!
The keys of the tables: no two proposals and no two entries have one identifier. With the keys in
place a change of status is a change of one row, and every operation on the two tables is told by
what it does to `rowOf` and to the ledger; later proofs go through that.
-/

namespace Signoff.Store

namespace Cell

theorem compare_text {s : String} {c : Cell} : (text s).compare c = .eq ↔ c = text s := by
  cases c with
  | text u => simp [Cell.compare, rank, eq_comm (a := u)]
  | _ => simp [Cell.compare, rank]

theorem text_clashes {s : String} {c : Cell} : (text s).clashes c = true ↔ c = text s := by
  simp only [clashes, Bool.and_eq_true, bne_iff_ne, ne_eq, beq_iff_eq, compare_text]
  constructor
  · exact fun h => h.2
  · rintro rfl
    simp

theorem compare_eq_comm {a b : Cell} : a.compare b = .eq ↔ b.compare a = .eq := by
  simp only [Cell.compare, Ordering.then_eq_eq, Std.compare_eq_iff_eq, eq_comm (a := a.rank)]
  refine and_congr_right fun _ => ?_
  cases a <;> cases b <;> simp only [Std.compare_eq_iff_eq] <;> exact eq_comm

theorem clashes_comm (a b : Cell) : a.clashes b = b.clashes a := by
  rw [Bool.eq_iff_iff]
  simp only [clashes, Bool.and_eq_true, beq_iff_eq, compare_eq_comm (a := a)]
  tauto

end Cell

theorem isPending_iff {r : ProposalRow} : r.isPending = true ↔ r.status = .text Status.pending.name := by
  simp [ProposalRow.isPending]

theorem isOf_iff {r : ProposalRow} {id : Uuid} : r.isOf id = true ↔ r.id = .text id.text := by
  simp [ProposalRow.isOf]

theorem text_injective {id other : Uuid} (h : id.text = other.text) : id = other := by
  cases id
  cases other
  cases h
  rfl

theorem eq_of_isOf {r : ProposalRow} {id other : Uuid} (h : r.isOf id = true)
    (h' : r.isOf other = true) : id = other := by
  rw [isOf_iff] at h h'
  exact text_injective (Cell.text.inj (h.symm.trans h'))

/-- Of two rows with different identifiers at most one is that of a given one. -/
theorem not_isOf_of_not_clashes {r u : ProposalRow} {id : Uuid} (h : r.id.clashes u.id = false)
    (hr : r.isOf id = true) : u.isOf id = false := by
  by_contra hu
  rw [Bool.not_eq_false, isOf_iff] at hu
  rw [isOf_iff] at hr
  have hc : r.id.clashes u.id = true := by rw [hr, Cell.text_clashes, hu]
  rw [hc] at h
  cases h

theorem not_clashes_of_fitsBeside {r u : ProposalRow} (h : r.fitsBeside u = true) :
    r.id.clashes u.id = false := by
  simp only [ProposalRow.fitsBeside, Bool.and_eq_true, Bool.not_eq_true'] at h
  exact h.1

/-- What the tables of proposals and entries keep, whoever writes to them. -/
structure Keyed (s : Store) : Prop where
  proposals : s.proposals.Pairwise fun r u => r.id.clashes u.id = false
  ledger : s.ledger.Pairwise fun e f => e.id.clashes f.id = false

theorem keyed_empty : empty.Keyed := ⟨List.Pairwise.nil, List.Pairwise.nil⟩

/-- The greatest of numbers is no more than what none of them is more than. -/
theorem foldl_max_le_iff {ns : List Int} {n m : Int} :
    ns.foldl max n ≤ m ↔ n ≤ m ∧ ∀ k ∈ ns, k ≤ m := by
  induction ns generalizing n with
  | nil => simp
  | cons k ns ih => rw [List.foldl_cons, ih, max_le_iff, List.forall_mem_cons, and_assoc]

/-- The row of an identifier. -/
def rowOf (s : Store) (id : Uuid) : Option ProposalRow := s.proposals.find? (·.isOf id)

theorem mem_of_rowOf {s : Store} {id : Uuid} {r : ProposalRow} (h : s.rowOf id = some r) :
    r ∈ s.proposals ∧ r.isOf id = true :=
  ⟨List.mem_of_find?_eq_some h, List.find?_some (p := fun r : ProposalRow => r.isOf id) h⟩

theorem Keyed.rowOf_eq {s : Store} (hk : s.Keyed) {id : Uuid} {r : ProposalRow}
    (hr : r ∈ s.proposals) (hid : r.isOf id = true) : s.rowOf id = some r := by
  obtain ⟨before, after, hs⟩ := List.append_of_mem hr
  have hp := hk.proposals
  rw [hs, List.pairwise_append] at hp
  rw [rowOf, hs, List.find?_append, List.find?_cons_of_pos (p := fun r : ProposalRow => r.isOf id) hid]
  suffices h : before.find? (·.isOf id) = none by rw [h, Option.none_or]
  rw [List.find?_eq_none]
  intro u hu hid'
  have hf := hp.2.2 u hu r (List.mem_cons_self ..)
  rw [not_isOf_of_not_clashes hf hid'] at hid
  cases hid

theorem insertProposal_eq {s : Store} (ht : s.schema.has .proposals = true) (p : Proposal) :
    s.insertProposal p =
      if s.proposals.all (ProposalRow.ofProposal p).fitsBeside then
        (.ok true, { s with proposals := s.proposals ++ [.ofProposal p] })
      else (.ok false, s) := by
  simp [insertProposal, requires, ht]

theorem Keyed.append {s : Store} (hk : s.Keyed) {r : ProposalRow}
    (h : s.proposals.all r.fitsBeside = true) :
    ({ s with proposals := s.proposals ++ [r] } : Store).Keyed := by
  refine ⟨?_, hk.ledger⟩
  rw [List.pairwise_append]
  refine ⟨hk.proposals, List.pairwise_singleton .., fun u hu v hv => ?_⟩
  rw [List.mem_singleton.mp hv, Cell.clashes_comm]
  exact not_clashes_of_fitsBeside (List.all_eq_true.mp h u hu)

theorem keyed_insertProposal {s : Store} (hk : s.Keyed) (p : Proposal) :
    (s.insertProposal p).2.Keyed := by
  unfold insertProposal
  split
  · exact hk
  · dsimp only
    split
    · next h => exact hk.append h
    · exact hk

theorem rowOf_append (s : Store) (r : ProposalRow) (id : Uuid) :
    ({ s with proposals := s.proposals ++ [r] } : Store).rowOf id =
      (s.rowOf id).or (if r.isOf id then some r else none) := by
  simp only [rowOf, List.find?_append, List.find?_singleton]

/-- A row after a change of status, which may be about another row. -/
def ProposalRow.after (t : Transition) (r : ProposalRow) : ProposalRow :=
  if t.appliesTo r then r.apply t else r

/-- The store after a change of status. -/
def changed (s : Store) (t : Transition) : Store :=
  { s with proposals := s.proposals.map (·.after t) }

@[simp] theorem changed_ledger (s : Store) (t : Transition) : (s.changed t).ledger = s.ledger := rfl

@[simp] theorem changed_schema (s : Store) (t : Transition) : (s.changed t).schema = s.schema := rfl

@[simp] theorem after_id (t : Transition) (r : ProposalRow) : (r.after t).id = r.id := by
  unfold ProposalRow.after
  split <;> rfl

@[simp] theorem after_isOf (t : Transition) (r : ProposalRow) (id : Uuid) :
    (r.after t).isOf id = r.isOf id := by
  simp [ProposalRow.isOf]

theorem appliesTo_iff {t : Transition} {r : ProposalRow} :
    t.appliesTo r = true ↔ r.isOf t.id = true ∧ r.status = .text t.source.name := by
  rw [Transition.appliesTo, Bool.and_eq_true, beq_iff_eq]

theorem after_of_source {t : Transition} {r : ProposalRow} (hid : r.isOf t.id = true)
    (hstatus : r.status = .text t.source.name) : r.after t = r.apply t :=
  if_pos (appliesTo_iff.mpr ⟨hid, hstatus⟩)

theorem after_of_not_isOf {t : Transition} {r : ProposalRow} (h : r.isOf t.id ≠ true) :
    r.after t = r :=
  if_neg fun happlies => h (appliesTo_iff.mp happlies).1

theorem after_of_ne {t : Transition} {r : ProposalRow} {id : Uuid} (hid : r.isOf id = true)
    (hne : id ≠ t.id) : r.after t = r :=
  after_of_not_isOf fun h => hne (eq_of_isOf hid h)

theorem rowOf_changed (s : Store) (t : Transition) (id : Uuid) :
    (s.changed t).rowOf id = (s.rowOf id).map (·.after t) := by
  simp only [rowOf, changed, List.find?_map, Function.comp_def, after_isOf]

/-- Where a row stands as a change expects it, the changed row stands in its place. -/
theorem rowOf_changed_self {s : Store} {t : Transition} {r : ProposalRow}
    (hrow : s.rowOf t.id = some r) (hstatus : r.status = .text t.source.name) :
    (s.changed t).rowOf t.id = some (r.apply t) := by
  rw [rowOf_changed, hrow, Option.map_some, after_of_source (mem_of_rowOf hrow).2 hstatus]

theorem rowOf_changed_of_ne (s : Store) {t : Transition} {id : Uuid} (hne : id ≠ t.id) :
    (s.changed t).rowOf id = s.rowOf id := by
  rw [rowOf_changed]
  cases h : s.rowOf id with
  | none => rfl
  | some r => rw [Option.map_some, after_of_ne (mem_of_rowOf h).2 hne]

theorem Keyed.changed {s : Store} (hk : s.Keyed) (t : Transition) : (s.changed t).Keyed := by
  refine ⟨?_, hk.ledger⟩
  refine List.Pairwise.map _ (fun r u h => ?_) hk.proposals
  rw [after_id, after_id]
  exact h

/-- A change of status looks for the row of its identifier, at the status that it expects. -/
theorem find_appliesTo {s : Store} (hk : s.Keyed) (t : Transition) :
    s.proposals.find? t.appliesTo =
      (s.rowOf t.id).filter (·.status == .text t.source.name) := by
  have hsome {u : ProposalRow} (hu : u ∈ s.proposals) (ha : t.appliesTo u = true) :
      s.rowOf t.id = some u ∧ (u.status == .text t.source.name) = true := by
    obtain ⟨hid, hstatus⟩ := appliesTo_iff.mp ha
    exact ⟨hk.rowOf_eq hu hid, beq_iff_eq.mpr hstatus⟩
  cases hf : s.proposals.find? t.appliesTo with
  | some u =>
    obtain ⟨hrow, hstatus⟩ := hsome (List.mem_of_find?_eq_some hf) (List.find?_some hf)
    rw [hrow, Option.filter_some, if_pos hstatus]
  | none =>
    symm
    rw [Option.filter_eq_none_iff]
    intro r hr hstatus
    obtain ⟨hmem, hid⟩ := mem_of_rowOf hr
    exact List.find?_eq_none.mp hf r hmem (appliesTo_iff.mpr ⟨hid, beq_iff_eq.mp hstatus⟩)

/-- What a change of status does, where it is in the life of a proposal. -/
theorem transition_eq {s : Store} (hk : s.Keyed) (ht : s.schema.has .proposals = true)
    {t : Transition} (he : t.source.canBecome t.target = true) :
    s.transition t =
      match s.rowOf t.id with
      | some r =>
        if r.status = .text t.source.name then ((r.apply t).read.map some, s.changed t)
        else (.ok none, s)
      | none => (.ok none, s) := by
  unfold transition
  simp only [he, Bool.not_true, Bool.false_eq_true, if_false, requires, ht, if_true,
    find_appliesTo hk]
  cases hr : s.rowOf t.id with
  | none => rfl
  | some r =>
    by_cases hs : r.status = .text t.source.name
    · simp only [Option.filter_some, hs, beq_self_eq_true, if_true]
      rfl
    · simp [Option.filter_some, hs]

theorem transition_of_not_edge (s : Store) {t : Transition}
    (he : t.source.canBecome t.target = false) :
    s.transition t = (.error (.notAllowed t.source t.target), s) := by
  simp [transition, he]

/-- A change of status that answers with a row was made. -/
theorem transition_some {s : Store} (hk : s.Keyed) {t : Transition} {p : Proposal} {s' : Store}
    (h : s.transition t = (.ok (some p), s')) :
    t.source.canBecome t.target = true ∧ s.schema.has .proposals = true ∧
      (∃ r, s.rowOf t.id = some r ∧ r.status = .text t.source.name ∧
        (r.apply t).read = .ok p) ∧ s' = s.changed t := by
  -- each check that fails gives another answer
  cases he : t.source.canBecome t.target with
  | false => simp [transition_of_not_edge s he] at h
  | true =>
    cases ht : s.schema.has .proposals with
    | false => simp [transition, he, requires, ht] at h
    | true =>
      rw [transition_eq hk ht he] at h
      split at h
      · next r hr =>
        split at h
        · next hs =>
          obtain ⟨h1, rfl⟩ := Prod.mk.inj h
          refine ⟨rfl, rfl, ⟨r, hr, hs, ?_⟩, rfl⟩
          cases hread : (r.apply t).read with
          | error e => simp [hread, Except.map] at h1
          | ok q => simpa [hread, Except.map] using h1
        · simp at h
      · simp at h

theorem keyed_transition {s : Store} (hk : s.Keyed) (t : Transition) :
    (s.transition t).2.Keyed := by
  cases he : t.source.canBecome t.target with
  | false => rw [transition_of_not_edge s he]; exact hk
  | true =>
    cases ht : s.schema.has .proposals with
    | false => simpa [transition, he, requires, ht] using hk
    | true =>
      rw [transition_eq hk ht he]
      split
      · split
        · exact hk.changed t
        · exact hk
      · exact hk

theorem insertEntry_eq {s : Store} (ht : s.schema.has .ledger = true) (e : Audit.Entry) :
    s.insertEntry e =
      if ∀ f ∈ s.ledger, f.id ≠ .text e.id.text then
        (.ok (), { s with ledger := s.ledger ++ [.ofEntry e] })
      else (.error (.query "insert_audit"), s) := by
  have hany : s.ledger.any (·.id.clashes (EntryRow.ofEntry e).id) = true ↔
      ¬ ∀ f ∈ s.ledger, f.id ≠ .text e.id.text := by
    simp only [List.any_eq_true, EntryRow.ofEntry, Cell.clashes_comm _ (.text _),
      Cell.text_clashes]
    push Not
    rfl
  unfold insertEntry
  simp only [requires, ht, if_true]
  split
  · next h => rw [if_neg (hany.mp h)]
  · next h => rw [if_pos (by_contra fun hn => h (hany.mpr hn))]

end Signoff.Store
