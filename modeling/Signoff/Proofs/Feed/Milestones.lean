import Mathlib
import Signoff.Proofs.Store.Reading
import Signoff.Proposal.Event

/-!
What is announced of one proposal: that it is there, and each change of its status on the way to
where it stands. When all of that was announced, whoever knows how to read it knows where the
proposal stands.
-/

namespace Signoff

open Store

namespace Proposal

/-- The proposal as it was added. -/
def origin (p : Proposal) : Proposal :=
  { p with status := .pending, decidedAt := none, decidedBy := none, error := none }

/-- What is announced of a proposal on the way to where it stands, but for the proposal itself. -/
def milestones (p : Proposal) : List Event :=
  match p.status with
  | .pending => []
  | .approved => [.statusChanged p.id .approved none]
  | .rejected => [.statusChanged p.id .rejected none]
  | .executed => [.statusChanged p.id .approved none, .statusChanged p.id .executed p.error]
  | .failed => [.statusChanged p.id .approved none, .statusChanged p.id .failed p.error]

namespace Event

/-- The proposal that an announcement is about. -/
def subject? : Event → Option Uuid
  | pendingSync _ => none
  | proposed p => some p.id
  | statusChanged id _ _ => some id

/-- The status that an announcement gives its proposal. -/
def status? : Event → Option Status
  | pendingSync _ => none
  | proposed p => some p.status
  | statusChanged _ status _ => some status

/-- Whether an announcement is about what became of a proposal. -/
def isChange : Event → Bool
  | statusChanged _ _ _ => true
  | _ => false

/-- The announcements about one proposal. -/
def concerning (id : Uuid) (es : List Event) : List Event := es.filter (·.subject? == some id)

/-- The status in which announcements leave a proposal, when the last one counts. -/
def replayed? (id : Uuid) (es : List Event) : Option Status :=
  (concerning id es).getLast?.bind (·.status?)

/-- The status in which announcements leave a proposal, when what became of it counts for more than
that it is there. -/
def heeded? (id : Uuid) (es : List Event) : Option Status :=
  (((concerning id es).filter (·.isChange)).getLast?.or (concerning id es).getLast?).bind
    (·.status?)

variable {e : Event} {id : Uuid} {es : List Event}

theorem concerning_append (id : Uuid) (es later : List Event) :
    concerning id (es ++ later) = concerning id es ++ concerning id later := List.filter_append ..

theorem concerning_cons_of_eq (h : e.subject? = some id) :
    concerning id (e :: es) = e :: concerning id es := by
  simp only [concerning, List.filter_cons, h, beq_self_eq_true, if_true]

theorem concerning_cons_of_ne (h : e.subject? ≠ some id) :
    concerning id (e :: es) = concerning id es := by
  simp only [concerning, List.filter_cons, beq_iff_eq, h, if_false]

theorem concerning_concat_of_eq (h : e.subject? = some id) :
    concerning id (es ++ [e]) = concerning id es ++ [e] := by
  rw [concerning_append, concerning_cons_of_eq h]
  rfl

theorem concerning_concat_of_ne (h : e.subject? ≠ some id) :
    concerning id (es ++ [e]) = concerning id es := by
  rw [concerning_append, concerning_cons_of_ne h]
  exact List.append_nil _

end Event

open Event

variable {p : Proposal} {t : Transition}

theorem isChange_of_milestone {e : Event} (h : e ∈ p.milestones) : e.isChange = true := by
  unfold milestones at h
  split at h <;> simp only [List.mem_cons, List.not_mem_nil, or_false] at h
  · rw [h]; rfl
  · rw [h]; rfl
  · rcases h with rfl | rfl <;> rfl
  · rcases h with rfl | rfl <;> rfl

/-- A proposal that moves on has one thing more announced of it. -/
theorem milestones_change (hedge : p.status.canBecome t.target = true)
    (herror : p.status = .pending → t.error = none) :
    (t.change p).milestones = p.milestones ++ [.statusChanged p.id t.target t.error] := by
  have hstatus : (t.change p).status = t.target := rfl
  -- there are four edges
  cases hp : p.status <;> cases ht : t.target <;> rw [hp, ht] at hedge <;> try cases hedge
  · simp only [milestones, hstatus, ht, hp, herror hp]
    rfl
  · simp only [milestones, hstatus, ht, hp, herror hp]
    rfl
  · simp only [milestones, hstatus, ht, hp]
    rfl
  · simp only [milestones, hstatus, ht, hp]
    rfl

/-- What was announced of a proposal, and what has yet to be; `overtaken` tells whether a change of
its status was tried before it was itself announced. -/
inductive Announced (overtaken : Prop) (p : Proposal) (told due : List Event) : Prop
  | awaited (late : List Event) (hall : told ++ late = p.milestones) (hlate : late.length ≤ 1)
    (hover : p.milestones ≠ [] → overtaken) (hdue : due.Perm (.proposed p.origin :: late))
  | made (before after late : List Event) (hall : before ++ after ++ late = p.milestones)
    (hlate : late.length ≤ 1) (hover : before ≠ [] → overtaken)
    (htold : told = before ++ .proposed p.origin :: after) (hdue : due.Perm late)

namespace Announced

variable {overtaken overtaken' : Prop} {told due due' : List Event} {e : Event}

theorem mono (h : p.Announced overtaken told due) (hover : overtaken → overtaken')
    (hdue : due'.Perm due) : p.Announced overtaken' told due' := by
  cases h with
  | awaited late hall hlate hover' hdue' =>
    exact .awaited late hall hlate (fun h => hover (hover' h)) (hdue.trans hdue')
  | made before after late hall hlate hover' htold hdue' =>
    exact .made before after late hall hlate (fun h => hover (hover' h)) htold
      (hdue.trans hdue')

theorem eq_singleton {late : List Event} (hlate : late.length ≤ 1) (he : e ∈ late) :
    late = [e] := by
  have hpos : 0 < late.length := List.length_pos_of_mem he
  obtain ⟨a, rfl⟩ := List.length_eq_one_iff.mp (Nat.le_antisymm hlate hpos)
  rw [List.mem_singleton.mp he]

/-- What was due is announced. -/
theorem tell (h : p.Announced overtaken told due) (hdue : due.Perm (e :: due')) :
    p.Announced overtaken (told ++ [e]) due' := by
  cases h with
  | awaited late hall hlate hover hdue' =>
    have hperm : (e :: due').Perm (.proposed p.origin :: late) := hdue.symm.trans hdue'
    rcases List.mem_cons.mp (hperm.subset List.mem_cons_self) with rfl | he
    · -- the proposal itself, after all that was announced so far
      refine .made told [] late ?_ hlate ?_ rfl hperm.cons_inv
      · rw [List.append_nil]
        exact hall
      · intro hne
        apply hover
        rw [← hall]
        exact List.append_ne_nil_of_left_ne_nil hne late
    · -- a change of status, while the proposal itself still waits
      have hone := eq_singleton hlate he
      subst hone
      refine .awaited [] ?_ (Nat.zero_le _) hover ?_
      · rw [List.append_nil]
        exact hall
      · exact (hperm.trans (.swap e _ [])).cons_inv
  | made before after late hall hlate hover htold hdue' =>
    -- one change at most is due, and it comes after all those that were announced
    have hperm : (e :: due').Perm late := hdue.symm.trans hdue'
    have hone := eq_singleton hlate (hperm.subset List.mem_cons_self)
    subst hone
    refine .made before (after ++ [e]) [] ?_ (Nat.zero_le _) hover ?_ hperm.cons_inv
    · rw [List.append_nil, ← List.append_assoc]
      exact hall
    · rw [htold, List.append_assoc, List.cons_append]

/-- Nothing about the status is left to be announced when a proposal moves on. -/
theorem late_eq_nil {early late : List Event} (hall : early ++ late = p.milestones)
    (hedge : p.status.canBecome t.target = true)
    (hidle : p.status = .approved → .statusChanged p.id .approved none ∉ late) : late = [] := by
  cases hp : p.status with
  | pending =>
    simp only [milestones, hp] at hall
    exact (List.append_eq_nil_iff.mp hall).2
  | approved =>
    simp only [milestones, hp] at hall
    -- the one milestone is the approval: it is late, or all was announced
    rcases List.append_eq_singleton_iff.mp hall with ⟨-, hlate⟩ | ⟨-, hlate⟩
    · have hmem := hidle hp
      rw [hlate] at hmem
      exact absurd (List.mem_singleton_self _) hmem
    · exact hlate
  | _ =>
    rw [hp] at hedge
    cases hedge

/-- The proposal moves on, and that is due now. -/
theorem move (h : p.Announced overtaken told due) (hedge : p.status.canBecome t.target = true)
    (herror : p.status = .pending → t.error = none)
    (hidle : p.status = .approved → .statusChanged p.id .approved none ∉ due)
    (hover : overtaken ∨ .proposed p.origin ∈ due → overtaken')
    (hdue : due'.Perm (.statusChanged p.id t.target t.error :: due)) :
    (t.change p).Announced overtaken' told due' := by
  have hmilestones := milestones_change hedge herror
  -- in both cases no earlier change is due any more, so that this one comes last
  cases h with
  | awaited late hall hlate _ hdue' =>
    have hnone : late = [] := by
      apply late_eq_nil hall hedge
      intro hp hmem
      exact hidle hp (hdue'.symm.subset (List.mem_cons_of_mem _ hmem))
    subst hnone
    rw [List.append_nil] at hall
    refine .awaited [.statusChanged p.id t.target t.error] ?_ (le_refl _) ?_ ?_
    · rw [hmilestones, hall]
    · -- the proposal itself is due, so this change overtakes it
      intro _
      exact hover (.inr (hdue'.symm.subset List.mem_cons_self))
    · exact (hdue.trans (hdue'.cons _)).trans (.swap _ _ [])
  | made before after late hall hlate hover' htold hdue' =>
    have hnone : late = [] := by
      apply late_eq_nil hall hedge
      intro hp hmem
      exact hidle hp (hdue'.symm.subset hmem)
    subst hnone
    rw [List.append_nil] at hall
    refine .made before after [.statusChanged p.id t.target t.error] ?_ (le_refl _) ?_ htold ?_
    · rw [hmilestones, hall]
    · intro hne
      exact hover (.inl (hover' hne))
    · exact hdue.trans (hdue'.cons _)

end Announced

/-- The last thing announced of a proposal on its way gives the status in which it stands. -/
theorem status?_getLast? {told : List Event} {e : Event} (h : told = e :: p.milestones)
    (he : e.status? = some .pending) : told.getLast?.bind (·.status?) = some p.status := by
  subst h
  cases hp : p.status <;> simp only [milestones, hp] <;> first | exact he | rfl

/-- Where all has been announced, what became of the proposal tells where it stands. -/
theorem Announced.heeded {overtaken : Prop} {told : List Event}
    (h : p.Announced overtaken told []) :
    ((told.filter (·.isChange)).getLast?.or told.getLast?).bind (·.status?) = some p.status := by
  cases h with
  | awaited _ _ _ _ hdue => exact absurd hdue.symm List.not_perm_cons_nil
  | made before after late hall _ _ htold hdue =>
    rw [hdue.symm.eq_nil, List.append_nil] at hall
    -- among the changes of status alone, the proposal's own announcement is out of the way
    have hchanges : told.filter (·.isChange) = p.milestones := by
      have hmiles : (before ++ after).filter (·.isChange) = before ++ after := by
        apply List.filter_eq_self.mpr
        intro e he
        exact isChange_of_milestone (hall ▸ he)
      rw [← hall, ← hmiles, htold, List.filter_append, List.filter_append]
      rfl
    rw [hchanges]
    by_cases hnone : p.milestones = []
    · -- nothing became of it yet, and it was announced itself
      rw [hnone] at hall ⊢
      obtain ⟨rfl, rfl⟩ := List.append_eq_nil_iff.mp hall
      exact status?_getLast? (htold.trans (by rw [hnone]; rfl)) rfl
    · obtain ⟨e, he⟩ := Option.ne_none_iff_exists'.mp (mt List.getLast?_eq_none_iff.mp hnone)
      have hlast := status?_getLast? (p := p) (e := .proposed p.origin) rfl rfl
      rw [List.getLast?_cons, he] at hlast
      rw [he]
      exact hlast

/-- Where the proposal itself was announced first, the last announcement tells where it stands. -/
theorem Announced.replayed {told : List Event} (h : p.Announced False told []) :
    told.getLast?.bind (·.status?) = some p.status := by
  cases h with
  | awaited _ _ _ _ hdue => exact absurd hdue.symm List.not_perm_cons_nil
  | made before after late hall _ hover htold hdue =>
    obtain rfl : before = [] := by
      by_contra hne
      exact hover hne
    rw [hdue.symm.eq_nil, List.append_nil, List.nil_append] at hall
    rw [List.nil_append, hall] at htold
    exact status?_getLast? htold rfl

end Proposal
end Signoff
