import Mathlib
import Signoff.Feed.Channel
import Signoff.Proofs.Desk.Tidy
import Signoff.Proofs.Feed.Milestones

/-!
In which order proposals are announced. A write and its announcement are two steps, and between them
other calls can find the proposal. So the announcement that it is there may come after some about
what became of it; those come one after the other as the proposal moved on, and there are no others.
-/

namespace Signoff

open Store Proposal.Event

/-! ### Calls -/

/-- What was written and has yet to be told. -/
def Traffic.due (t : Traffic) : List Proposal.Event := t.calls.filterMap (·.tells?)

/-- Whether a turn is one in which the status of a proposal is to be changed that has yet to be
announced. -/
def Traffic.overtakes (id : Uuid) (t : Traffic) (x : Turn) : Bool :=
  (t.calls[x.who]?).any (fun c => (c.tries? x.moment).any (·.id == id)) &&
    (concerning id t.due).any (!·.isChange)

/-- Whether there is such a turn in a schedule. -/
def Traffic.isOvertaken (id : Uuid) : Traffic → List Turn → Bool
  | _, [] => false
  | t, x :: turns => t.overtakes id x || isOvertaken id (t.step x) turns

/-- A retry under way adds a proposal as new ones are. -/
def Call.Anew : Call → Prop
  | .review (.renew p) => p.origin = p
  | _ => True

variable {t : Traffic} {x : Turn} {c c' : Call} {d : Desk} {m : Moment} {id : Uuid} {p : Proposal}
  {e : Proposal.Event}

theorem origin_of_adds? (h : c.Anew) (ha : c.adds? m = some p) : p.origin = p := by
  cases Call.adds_of_eq ha with
  | renewed p => exact h
  | matched hx xs now r =>
    -- what a batch proposes is made pending and undecided
    rfl

theorem anew_step (su : Setup) (hr : d.store.Ready) (c : Call) : (c.step su m d).1.Anew := by
  rcases c with r | i | a | o | o
  · have hleads := leads_step (m := m) su.registry hr r
    simp only [Call.step]
    generalize (r.step su.registry m d).1 = r' at *
    cases hleads <;> trivial
  all_goals trivial

theorem anew_of_isStart (h : c.isStart = true) : c.Anew := by
  rcases c with r | i | a | o | o
  · cases r <;> trivial
  all_goals trivial

/-- All that calls have to tell is about some proposal. -/
theorem subject?_of_tells? (h : c.tells? = some e) : e.subject? ≠ none := by
  unfold Call.tells? at h
  split at h <;> cases h <;> exact Option.some_ne_none _

/-- It is the approval under way that tells of the approval. -/
theorem holds?_of_tells? (h : c.tells? = some (.statusChanged id .approved none)) :
    c.holds? = some id := by
  unfold Call.tells? at h
  split at h
  · cases h
    rfl
  · next p o =>
    -- a call that has settled a proposal tells of its end, which is not the approval
    have hstatus : Review.statusOf o = .approved := by
      injection Option.some.inj h
    rcases statusOf_final o with hfinal | hfinal <;> rw [hfinal] at hstatus <;> cases hstatus
  all_goals cases h

/-- No two calls have the same proposal. -/
theorem Stands.holder_unique {i j : Nat} {u : Call} (h : Stands id t) (hi : t.calls[i]? = some c)
    (hc : c.holds? = some id) (hj : t.calls[j]? = some u) (hu : u.holds? = some id) : c = u := by
  cases h with
  | held k n owner hk _ _ others =>
    have hplace {l : Nat} {v : Call} (hl : t.calls[l]? = some v) (hv : v.holds? = some id) :
        l = k := by
      by_contra hne
      exact others l v hne hl hv
    rw [hplace hi hc] at hi
    rw [hplace hj hu, hi] at hj
    exact Option.some.inj hj
  | absent _ _ _ free => exact absurd hc (free c (List.mem_of_getElem? hi))
  | pending _ free => exact absurd hc (free c (List.mem_of_getElem? hi))
  | ended _ _ _ _ _ _ free => exact absurd hc (free c (List.mem_of_getElem? hi))

/-! ### A step -/

/-- What was announced under an identifier fits what is stored under it. -/
inductive Heralds (overtaken : Prop) (id : Uuid) (t : Traffic) : Prop
  | absent (hrow : t.desk.store.rowOf id = none) (htold : concerning id t.desk.told = [])
    (hdue : concerning id t.due = [])
  | stored (r : ProposalRow) (p : Proposal) (hrow : t.desk.store.rowOf id = some r)
    (hreads : r.Reads p)
    (hadded : (ProposalRow.ofProposal p.origin).Follows (Relation.ReflTransGen Edge) r)
    (h : p.Announced overtaken (concerning id t.desk.told) (concerning id t.due))

theorem Heralds.congr {overtaken overtaken' : Prop} {t' : Traffic} (h : Heralds overtaken id t)
    (hover : overtaken → overtaken') (hrow : t'.desk.store.rowOf id = t.desk.store.rowOf id)
    (htold : concerning id t'.desk.told = concerning id t.desk.told)
    (hdue : (concerning id t'.due).Perm (concerning id t.due)) : Heralds overtaken' id t' := by
  cases h with
  | absent hrow' htold' hdue' =>
    refine .absent (hrow.trans hrow') (htold.trans htold') ?_
    rw [hdue'] at hdue
    exact hdue.eq_nil
  | stored r p hrow' hreads hadded h =>
    refine .stored r p (hrow.trans hrow') hreads hadded ?_
    rw [htold]
    exact h.mono hover hdue

/-- What is due when a call makes a step, up to its order. -/
theorem due_set {calls : List Call} {i : Nat} (hi : calls[i]? = some c) (c' : Call) :
    ((calls.set i c').filterMap (·.tells?) ++ c.tells?.toList).Perm
      (calls.filterMap (·.tells?) ++ c'.tells?.toList) := by
  obtain ⟨hlt, hget⟩ := List.getElem?_eq_some_iff.mp hi
  have hcalls : calls = calls.take i ++ c :: calls.drop (i + 1) := by
    rw [← hget, ← List.drop_eq_getElem_cons hlt, List.take_append_drop]
  have hfilter (u : Call) : (calls.take i ++ u :: calls.drop (i + 1)).filterMap (·.tells?) =
      (calls.take i).filterMap (·.tells?) ++
        (u.tells?.toList ++ (calls.drop (i + 1)).filterMap (·.tells?)) := by
    rw [List.filterMap_append, List.filterMap_cons]
    cases u.tells? <;> rfl
  have hset : calls.set i c' = calls.take i ++ c' :: calls.drop (i + 1) := by
    rw [List.set_eq_take_append_cons_drop, if_pos hlt]
  rw [hset, hfilter c']
  conv_rhs => rw [hcalls, hfilter c]
  rw [List.append_assoc, List.append_assoc, List.append_assoc, List.append_assoc]
  -- one goes from the middle to the end, and the other the other way
  apply List.Perm.append_left
  have hback : (c'.tells?.toList ++ ((calls.drop (i + 1)).filterMap (·.tells?) ++
      c.tells?.toList)).Perm ((c.tells?.toList ++ (calls.drop (i + 1)).filterMap (·.tells?)) ++
        c'.tells?.toList) := List.perm_append_comm.trans (List.perm_append_comm.append_right _)
  rwa [List.append_assoc] at hback

section Step

variable {overtaken : Prop}

/-- The call that makes a step tells what it has to tell. -/
theorem heralds_told (h : Heralds overtaken id t) {t' : Traffic}
    (hstore : t'.desk.store = t.desk.store) (htold : t'.desk.told = t.desk.told ++ [e])
    (hdue : t.due.Perm (e :: t'.due)) : Heralds overtaken id t' := by
  have hdue' : (concerning id t.due).Perm (concerning id (e :: t'.due)) := hdue.filter _
  have hrow : t'.desk.store.rowOf id = t.desk.store.rowOf id := by rw [hstore]
  by_cases hid : e.subject? = some id
  · rw [concerning_cons_of_eq hid] at hdue'
    cases h with
    | absent _ _ hnone =>
      -- nothing was due that could be told
      rw [hnone] at hdue'
      exact absurd hdue'.symm List.not_perm_cons_nil
    | stored r p hrow' hreads hadded h =>
      refine .stored r p (hrow.trans hrow') hreads hadded ?_
      rw [htold, concerning_concat_of_eq hid]
      exact h.tell hdue'
  · rw [concerning_cons_of_ne hid] at hdue'
    exact h.congr (fun h => h) hrow (by rw [htold, concerning_concat_of_ne hid]) hdue'.symm

/-- A proposal is added. -/
theorem heralds_added (h : Heralds overtaken id t) {t' : Traffic} (hp : p.origin = p)
    (hreads : (ProposalRow.ofProposal p).Reads p) (hnew : t.desk.store.rowOf p.id = none)
    (hrows : t'.desk.store.proposals = t.desk.store.proposals ++ [.ofProposal p])
    (htold : t'.desk.told = t.desk.told) (hdue : t'.due.Perm (.proposed p :: t.due)) :
    Heralds overtaken id t' := by
  have hdue' : (concerning id t'.due).Perm (concerning id (.proposed p :: t.due)) := hdue.filter _
  have hrow : t'.desk.store.rowOf id =
      (t.desk.store.rowOf id).or (if p.id = id then some (.ofProposal p) else none) := by
    have happend := rowOf_append t.desk.store (.ofProposal p) id
    rw [rowOf] at happend
    rw [rowOf, hrows, happend]
    simp only [isOf_ofProposal]
  by_cases hid : p.id = id
  · subst hid
    rw [concerning_cons_of_eq rfl] at hdue'
    rw [hnew, if_pos rfl] at hrow
    cases h with
    | stored r _ hrow' _ _ _ =>
      rw [hnew] at hrow'
      cases hrow'
    | absent _ hnone hnone' =>
      rw [hnone'] at hdue'
      have hadded : (ProposalRow.ofProposal p.origin).Follows (Relation.ReflTransGen Edge)
          (.ofProposal p) := by
        rw [hp]
        exact .refl (fun _ => .refl) _
      refine .stored _ p hrow hreads hadded ?_
      rw [htold, hnone]
      have hmilestones : p.milestones = [] := by
        rw [← hp]
        rfl
      -- the proposal is due, and nothing became of it yet
      refine .awaited [] hmilestones.symm (Nat.zero_le _) (absurd hmilestones) ?_
      rw [hp]
      exact hdue'
  · have hne : (Proposal.Event.proposed p).subject? ≠ some id := by
      intro heq
      exact hid (Option.some.inj heq)
    rw [concerning_cons_of_ne hne] at hdue'
    rw [if_neg hid, Option.or_none] at hrow
    exact h.congr (fun h => h) hrow (by rw [htold]) hdue'

section Move

variable {t' : Traffic} {u : Transition} {r : ProposalRow} {overtaken' : Prop}

/-- What is read of the row that moves is the proposal, changed, and what its announcement adds is
one more thing that is due. -/
theorem heralds_moved_self (h : Heralds overtaken u.id t) (hnow : m.now.Sortable)
    (hu : c.tries? m = some u) (hrow : t.desk.store.rowOf u.id = some r)
    (hsource : r.status = .text u.source.name)
    (hidle : u.source = .approved → .statusChanged u.id .approved none ∉ t.due)
    (hover : overtaken → overtaken')
    (hover' : (∃ e ∈ concerning u.id t.due, e.isChange = false) → overtaken')
    (hrow' : t'.desk.store.rowOf u.id = some (r.apply u)) (htold : t'.desk.told = t.desk.told)
    (hdue : (concerning u.id t'.due).Perm
      (.statusChanged u.id u.target u.error :: concerning u.id t.due)) :
    Heralds overtaken' u.id t' := by
  cases h with
  | absent hnone _ _ =>
    rw [hnone] at hrow
    cases hrow
  | stored r' p hsame hreads hadded h =>
    rw [hrow, Option.some.injEq] at hsame
    subst hsame
    obtain ⟨-, hisOf⟩ := mem_of_rowOf hrow
    have hstatus : p.status = u.source := hreads.status_eq hsource
    have hpid : p.id = u.id := hreads.id_eq hisOf
    have hsortable : ∀ now, u.decidedAt = some now → now.Sortable := by
      intro now hdecided
      rw [tries?_now hu now hdecided]
      exact hnow
    have hmoved : r.Follows (Relation.ReflTransGen Edge) (r.apply u) := by
      rw [← after_of_source hisOf hsource]
      exact (follows_after (tries?_edge hu).1 r).mono fun _ _ => Relation.ReflGen.to_reflTransGen
    refine .stored _ (u.change p) hrow' (hreads.apply hsortable)
      (hadded.trans (fun _ _ _ => .trans) hmoved) ?_
    rw [htold]
    refine h.move (hstatus ▸ (tries?_edge hu).1) ?_ ?_ ?_ ?_
    · intro hp
      exact tries?_error hu (hstatus ▸ hp)
    · intro hp hmem
      rw [hpid] at hmem
      exact hidle (hstatus ▸ hp) (List.mem_of_mem_filter hmem)
    · rintro (h | hmem)
      · exact hover h
      · exact hover' ⟨_, hmem, rfl⟩
    · rw [hpid]
      exact hdue

/-- A proposal moves on. -/
theorem heralds_moved (h : Heralds overtaken id t) (hnow : m.now.Sortable)
    (hu : c.tries? m = some u) (hrow : t.desk.store.rowOf u.id = some r)
    (hsource : r.status = .text u.source.name)
    (hidle : u.source = .approved → .statusChanged u.id .approved none ∉ t.due)
    (hover : overtaken → overtaken')
    (hover' : u.id = id → (∃ e ∈ concerning id t.due, e.isChange = false) → overtaken')
    (hrows : t'.desk.store.proposals = (t.desk.store.changed u).proposals)
    (htold : t'.desk.told = t.desk.told)
    (hdue : t'.due.Perm (.statusChanged u.id u.target u.error :: t.due)) :
    Heralds overtaken' id t' := by
  have hdue' : (concerning id t'.due).Perm
      (concerning id (.statusChanged u.id u.target u.error :: t.due)) := hdue.filter _
  have hchanged : t'.desk.store.rowOf id = (t.desk.store.changed u).rowOf id := by
    rw [rowOf, hrows, rowOf]
  -- of another proposal nothing is told, nothing becomes due and the row stays
  by_cases hid : u.id = id
  · subst hid
    rw [concerning_cons_of_eq rfl] at hdue'
    rw [rowOf_changed_self hrow hsource] at hchanged
    exact heralds_moved_self h hnow hu hrow hsource hidle hover (hover' rfl) hchanged htold hdue'
  · have hne : (Proposal.Event.statusChanged u.id u.target u.error).subject? ≠ some id := by
      intro heq
      exact hid (Option.some.inj heq)
    rw [concerning_cons_of_ne hne] at hdue'
    rw [rowOf_changed_of_ne _ (Ne.symm hid)] at hchanged
    exact h.congr hover hchanged (by rw [htold]) hdue'

end Move

end Step

/-! ### A whole run -/

/-- What every step keeps among calls that began as `start`. -/
structure Voiced (start : List Call) (overtaken : Uuid → Prop) (t : Traffic) : Prop where
  kept : Kept start t
  tidy : t.desk.store.Tidy
  carries : ∀ c ∈ t.calls, c.Carries
  anew : ∀ c ∈ t.calls, c.Anew
  named : ∀ e ∈ t.desk.told, e.subject? ≠ none
  heralds : ∀ id, Heralds (overtaken id) id t

section Run

variable {start : List Call} {overtaken : Uuid → Prop}

theorem Voiced.mono {overtaken' : Uuid → Prop} (h : Voiced start overtaken t)
    (hover : ∀ id, overtaken id → overtaken' id) : Voiced start overtaken' t :=
  ⟨h.kept, h.tidy, h.carries, h.anew, h.named,
    fun id => (h.heralds id).congr (hover id) rfl rfl (List.Perm.refl _)⟩

/-- While a call is about to move an approved proposal on, its approval is not due: that would be
another call that has the proposal. -/
theorem approval_not_due (h : Stands id t) (hc : t.calls[x.who]? = some c) (hn : c.tells? = none)
    (hh : c.holds? = some id) : .statusChanged id .approved none ∉ t.due := by
  intro hmem
  obtain ⟨u, hu, htells⟩ := List.mem_filterMap.mp hmem
  obtain ⟨j, hj⟩ := List.mem_iff_getElem?.mp hu
  -- it would be the same call, and that one has nothing to tell
  have hsame := h.holder_unique hc hh hj (holds?_of_tells? htells)
  rw [← hsame, hn] at htells
  cases htells

theorem heralds_step (h : Voiced start overtaken t) (hnow : x.moment.now.Sortable)
    (hc : t.calls[x.who]? = some c) (id : Uuid) :
    Heralds (overtaken id ∨ t.overtakes id x = true) id (t.step x) := by
  -- a step is quiet, or tells what was due, or writes one row and has that to tell
  have hdue := due_set hc (c.step x.setup x.moment t.desk).1
  have hcall := h.carries c (List.mem_of_getElem? hc)
  have hold := h.heralds id
  have hannounces := announces_step h.tidy.toReady h.tidy.readable hnow x.setup c
  rw [step_of_get hc]
  generalize (c.step x.setup x.moment t.desk).1 = c' at hannounces hdue
  generalize (c.step x.setup x.moment t.desk).2 = d' at hannounces
  cases hannounces with
  | quiet hn hn' hp htold =>
    rw [hn, hn', Option.toList_none, List.append_nil, List.append_nil] at hdue
    refine hold.congr .inl ?_ (congrArg (concerning id) htold) (hdue.filter _)
    rw [rowOf, hp]
    rfl
  | told e hn hn' hs htold =>
    rw [hn, hn', Option.toList_none, Option.toList_some, List.append_nil] at hdue
    have htells : Heralds (overtaken id) id ⟨d', t.calls.set x.who c'⟩ :=
      heralds_told hold hs htold (hdue.symm.trans List.perm_append_comm)
    exact htells.congr .inl rfl rfl (List.Perm.refl _)
  | added p hn ha hn' hnew hp htold =>
    rw [hn, hn', Option.toList_none, Option.toList_some, List.append_nil] at hdue
    have horigin := origin_of_adds? (h.anew c (List.mem_of_getElem? hc)) ha
    have hadds : Heralds (overtaken id) id ⟨d', t.calls.set x.who c'⟩ :=
      heralds_added hold horigin (holds_of_adds? hcall ha).2.reads hnew hp htold
        (hdue.trans List.perm_append_comm)
    exact hadds.congr .inl rfl rfl (List.Perm.refl _)
  | moved u hn hu hn' hrow hp htold =>
    rw [hn, hn', Option.toList_none, Option.toList_some, List.append_nil] at hdue
    obtain ⟨r, hrow, hsource⟩ := hrow
    refine heralds_moved hold hnow hu hrow hsource ?_ .inl ?_ hp htold
      (hdue.trans List.perm_append_comm)
    · intro happroved
      exact approval_not_due (h.kept.stands u.id) hc hn (holds?_of_tries? hu happroved)
    · -- the proposal itself is still due, so this is a turn that overtakes
      rintro hid ⟨e, he, hchange⟩
      right
      rw [Traffic.overtakes, hc, Option.any_some, hu, Option.any_some, Bool.and_eq_true,
        List.any_eq_true, beq_iff_eq]
      exact ⟨hid, e, he, by rw [hchange]; rfl⟩

/-- Announcements are made after those that were made. -/
theorem told_step (h : Voiced start overtaken t) (hnow : x.moment.now.Sortable) :
    t.desk.told <+: (t.step x).desk.told ∧ ∀ e ∈ (t.step x).desk.told, e.subject? ≠ none := by
  cases hc : t.calls[x.who]? with
  | none =>
    rw [step_of_none hc]
    exact ⟨List.prefix_refl _, h.named⟩
  | some c =>
    have hannounces := announces_step h.tidy.toReady h.tidy.readable hnow x.setup c
    rw [step_of_get hc]
    generalize (c.step x.setup x.moment t.desk).1 = c' at hannounces
    generalize (c.step x.setup x.moment t.desk).2 = d' at hannounces
    have hsame (htold : d'.told = t.desk.told) :
        t.desk.told <+: d'.told ∧ ∀ e ∈ d'.told, e.subject? ≠ none := by
      rw [htold]
      exact ⟨List.prefix_refl _, h.named⟩
    -- only one kind of step tells anything, and what it tells has a subject
    cases hannounces with
    | quiet _ _ _ htold => exact hsame htold
    | added _ _ _ _ _ _ htold => exact hsame htold
    | moved _ _ _ _ _ _ htold => exact hsame htold
    | told e hn _ _ htold =>
      refine ⟨?_, ?_⟩
      · rw [htold]
        exact List.prefix_append _ _
      · intro f hf
        rw [htold, List.mem_append, List.mem_singleton] at hf
        rcases hf with hf | rfl
        · exact h.named f hf
        · exact subject?_of_tells? hn

theorem voiced_step (h : Voiced start overtaken t) (hnow : x.moment.now.Sortable)
    (hu : t.desk.store.Unused x.moment.fresh) :
    Voiced start (fun id => overtaken id ∨ t.overtakes id x = true) (t.step x) := by
  have hkept := kept_step h.kept hnow hu
  have hnamed := (told_step h hnow).2
  cases hc : t.calls[x.who]? with
  | none =>
    rw [step_of_none hc]
    exact h.mono fun _ => .inl
  | some c =>
    have hcall := h.carries c (List.mem_of_getElem? hc)
    have hheralds := heralds_step h hnow hc
    rw [step_of_get hc] at hkept hnamed hheralds ⊢
    refine ⟨hkept, tidy_step x.setup h.tidy hnow hcall, ?_, ?_, hnamed, hheralds⟩
    · intro u hu
      rcases List.mem_or_eq_of_mem_set hu with hu | rfl
      · exact h.carries u hu
      · exact carries_step x.setup h.tidy hnow hcall
    · intro u hu
      rcases List.mem_or_eq_of_mem_set hu with hu | rfl
      · exact h.anew u hu
      · exact anew_step x.setup h.tidy.toReady c

theorem voiced_start (hstart : ∀ c ∈ start, c.isStart = true)
    (hwritten : ∀ records, .intake (.batch records) ∈ start → ∀ r ∈ records, r.Written) :
    Voiced start (fun _ => False) ⟨.empty, start⟩ := by
  have hkept := kept_start hstart hwritten
  have hsilent : (⟨.empty, start⟩ : Traffic).due = [] := by
    apply List.filterMap_eq_nil_iff.mpr
    intro c hc
    exact tells?_of_isStart (hstart c hc)
  refine ⟨hkept, tidy_empty, ?_, ?_, fun e he => (List.not_mem_nil he).elim, ?_⟩
  · intro c hc
    exact carries_of_isStart (hstart c hc) fun records heq => hwritten records (heq ▸ hc)
  · intro c hc
    exact anew_of_isStart (hstart c hc)
  · intro id
    exact .absent rfl rfl (by rw [hsilent]; rfl)

end Run

namespace Feed

open Proposal

/-- A listener who has lost nothing has heard all that is behind it. -/
structure Listener.Faithful (l : Listener) (told : List Event) : Prop where
  bound : l.passed ≤ told.length
  heard : l.lost = 0 → l.heard = told.take l.passed

theorem Listener.Faithful.mono {l : Listener} {told told' : List Event} (h : l.Faithful told)
    (hlonger : told <+: told') : l.Faithful told' := by
  obtain ⟨later, rfl⟩ := hlonger
  refine ⟨?_, ?_⟩
  · rw [List.length_append]
    exact h.bound.trans (Nat.le_add_right _ _)
  · intro hlost
    rw [List.take_append_of_le_length h.bound]
    exact h.heard hlost

theorem Listener.Faithful.hear {l : Listener} {told : List Event} (h : l.Faithful told) :
    (l.hear told).Faithful told := by
  rw [Listener.hear]
  split
  · next e he =>
    obtain ⟨hlt, hget⟩ := List.getElem?_eq_some_iff.mp he
    refine ⟨hlt, ?_⟩
    intro hlost
    dsimp only at hlost ⊢
    -- nothing was lost now, so what is heard is the next one
    have hnext : max l.passed (told.length - capacity) = l.passed := by omega
    have hbefore : l.lost = 0 := by omega
    rw [h.heard hbefore, List.take_succ_eq_append_getElem hlt, hget, hnext]
  · exact h

/-- A listener who has fallen behind by more than is kept loses announcements for good. -/
theorem Listener.lost_hear {l : Listener} {told : List Event}
    (h : l.passed + capacity < told.length) : l.lost < (l.hear told).lost := by
  have hlt : max l.passed (told.length - capacity) < told.length := by
    have hpos : 0 < capacity := by decide
    omega
  rw [Listener.hear, List.getElem?_eq_getElem hlt]
  dsimp only
  omega

variable {start : List Call} {overtaken : Uuid → Prop}

theorem Audience.voiced_run (a : Audience) (acts : List (Option Turn))
    (h : Voiced start overtaken a.traffic) (hl : a.listener.Faithful a.traffic.desk.told)
    (ho : Ordinary a.traffic.desk.store acts.reduceOption) :
    Voiced start (fun u => overtaken u ∨ a.traffic.isOvertaken u acts.reduceOption = true)
        (a.run acts).traffic ∧
      (a.run acts).listener.Faithful (a.run acts).traffic.desk.told := by
  -- what was overtaken grows from turn to turn, so it is general in the induction
  induction acts generalizing a overtaken with
  | nil => exact ⟨h.mono fun _ => .inl, hl⟩
  | cons act acts ih =>
    cases act with
    | none => exact ih (a.step none) h hl.hear ho
    | some x =>
      have hmem := List.mem_cons_self (a := x) (l := acts.reduceOption)
      have hstep := voiced_step h (ho.clock x hmem) (ho.unused x hmem)
      have htold := (told_step h (ho.clock x hmem)).1
      obtain ⟨hvoiced, hfaithful⟩ := ih (a.step (some x)) hstep (hl.mono htold)
        (ho.step h.tidy.toReady)
      refine ⟨hvoiced.mono ?_, hfaithful⟩
      -- overtaken before, in this turn or in a later one
      intro u hover
      rw [List.reduceOption_cons_of_some, Traffic.isOvertaken, Bool.or_eq_true, ← or_assoc]
      exact hover

/-- Whatever calls go on at once on a desk that was empty, and in any order of their steps: nothing
is announced but what became of stored proposals and that they are there. What became of one is
announced in the order in which it moved on, each time once; that it is there is announced once,
with the proposal as it was added to the table, and comes first unless a change of its status was
tried before. Nothing is left out but what is still due. So a listener who has lost nothing of all
that was told, and who lets what became of a proposal count for more than that it is there, comes to
know where it stands; and so does one who lets the last announcement count, unless such a change was
tried. -/
theorem announced_in_order {calls : List Call} {acts : List (Option Turn)}
    (hstart : ∀ c ∈ calls, c.isStart = true)
    (hwritten : ∀ records, .intake (.batch records) ∈ calls → ∀ r ∈ records, r.Written)
    (ho : Ordinary .empty acts.reduceOption) :
    ∀ a, a = (⟨⟨.empty, calls⟩, .new⟩ : Audience).run acts →
      (∀ e ∈ a.traffic.desk.told, ∃ r ∈ a.traffic.desk.store.proposals, ∃ p, r.read = .ok p ∧
        e.subject? = some p.id) ∧
      ∀ r ∈ a.traffic.desk.store.proposals, ∃ p, r.read = .ok p ∧
        (Store.ProposalRow.ofProposal p.origin).Follows (Relation.ReflTransGen Store.Edge) r ∧
        p.Announced ((⟨.empty, calls⟩ : Traffic).isOvertaken p.id acts.reduceOption = true)
          (Event.concerning p.id a.traffic.desk.told) (Event.concerning p.id a.traffic.due) ∧
        (Event.concerning p.id a.traffic.due = [] → a.listener.lost = 0 →
          a.listener.passed = a.traffic.desk.told.length →
          Event.heeded? p.id a.listener.heard = some p.status ∧
          ((⟨.empty, calls⟩ : Traffic).isOvertaken p.id acts.reduceOption = false →
            Event.replayed? p.id a.listener.heard = some p.status)) := by
  intro a hrun
  obtain ⟨hvoiced, hfaithful⟩ := Audience.voiced_run ⟨⟨.empty, calls⟩, .new⟩ acts
    (voiced_start hstart hwritten) ⟨Nat.zero_le _, fun _ => rfl⟩ ho
  rw [← hrun] at hvoiced hfaithful
  simp only [false_or] at hvoiced
  refine ⟨?_, ?_⟩
  · intro e he
    obtain ⟨u, hu⟩ := Option.ne_none_iff_exists'.mp (hvoiced.named e he)
    have hmem : e ∈ Event.concerning u a.traffic.desk.told :=
      List.mem_filter.mpr ⟨he, beq_iff_eq.mpr hu⟩
    cases hvoiced.heralds u with
    | absent _ hnone _ =>
      rw [hnone] at hmem
      cases hmem
    | stored r p hrow hreads _ _ =>
      obtain ⟨hr, hisOf⟩ := Store.mem_of_rowOf hrow
      refine ⟨r, hr, p, Store.read_ok.mpr hreads, ?_⟩
      rw [hreads.id_eq hisOf]
      exact hu
  · intro r hr
    obtain ⟨p, hp⟩ := hvoiced.tidy.readable r hr
    have hrow := hvoiced.tidy.rowOf_eq hr hp.own
    refine ⟨p, Store.read_ok.mpr hp.reads, ?_⟩
    cases hvoiced.heralds p.id with
    | absent hnone _ _ =>
      rw [hnone] at hrow
      cases hrow
    | stored r' q hrow' hreads hadded h =>
      rw [hrow, Option.some.injEq] at hrow'
      subst hrow'
      obtain rfl : q = p := hp.eq (Store.read_ok.mpr hreads)
      refine ⟨hadded, h, ?_⟩
      intro hdue hlost hpassed
      have hheard : a.listener.heard = a.traffic.desk.told := by
        rw [hfaithful.heard hlost, hpassed, List.take_length]
      rw [hdue] at h
      rw [hheard]
      refine ⟨h.heeded, ?_⟩
      -- where no change was tried too early, the proposal itself was announced first
      intro hfirst
      apply Announced.replayed
      refine h.mono ?_ (List.Perm.refl _)
      intro hover
      rw [hfirst] at hover
      cases hover

/-- The proposal is approved and fails between the write and the announcement of it, for use in
examples; then all that was told is heard. -/
def sampleHaste : List (Option Turn) :=
  [some (sampleTurn 0 0), some (sampleTurn 1 1), some (sampleTurn 1 2), some (sampleTurn 2 3),
    some (sampleTurn 2 4), some (sampleTurn 2 5), some (sampleTurn 2 6), some (sampleTurn 2 7),
    some (sampleTurn 1 8), some (sampleTurn 1 9), none, none, none]

def sampleAudience : Audience := (⟨⟨.empty, sampleApproval⟩, .new⟩ : Audience).run sampleHaste

theorem ordinary_sampleHaste : Ordinary .empty sampleHaste.reduceOption where
  clock := by
    simp [sampleHaste, sortable_sampleTurn]
  distinct := by decide +kernel
  unused := by simp [Store.Unused, Store.empty]

theorem announced_in_order_sample :
    (∀ c ∈ sampleApproval, c.isStart = true) ∧
      (∀ records, .intake (.batch records) ∈ sampleApproval → ∀ r ∈ records, r.Written) ∧
      Ordinary .empty sampleHaste.reduceOption ∧
      sampleAudience.traffic.desk.store.proposals.map (·.status) = [.text Status.failed.name] ∧
      ∀ r ∈ sampleAudience.traffic.desk.store.proposals, ∃ p, r.read = .ok p ∧
        Event.heeded? p.id sampleAudience.listener.heard = some p.status := by
  have hstart : ∀ c ∈ sampleApproval, c.isStart = true := by decide
  obtain ⟨-, hstored⟩ := announced_in_order hstart written_sampleApproval ordinary_sampleHaste
    sampleAudience rfl
  have hend : sampleAudience.traffic.desk.store.proposals.map (·.status) =
      [.text Status.failed.name] ∧ sampleAudience.traffic.due.isEmpty = true ∧
      sampleAudience.listener.lost = 0 ∧
      sampleAudience.listener.passed = sampleAudience.traffic.desk.told.length := by decide +kernel
  obtain ⟨hstatus, hdue, hlost, hpassed⟩ := hend
  refine ⟨hstart, written_sampleApproval, ordinary_sampleHaste, hstatus, ?_⟩
  intro r hr
  obtain ⟨p, hread, -, -, hheard⟩ := hstored r hr
  have hnone : Event.concerning p.id sampleAudience.traffic.due = [] := by
    rw [List.isEmpty_iff.mp hdue]
    rfl
  exact ⟨p, hread, (hheard hnone hlost hpassed).1⟩

/-- A proposal can be announced after what became of it, so that whoever lets the last announcement
count takes for pending what has failed; and of more announcements than are kept some are lost. -/
theorem creation_announced_last :
    (sampleAudience.traffic.calls.all (·.isDone) = true ∧ sampleAudience.listener.lost = 0 ∧
      sampleAudience.traffic.desk.store.proposals.map (fun r => (r.id, r.status)) =
        [(.text (numbered 2).text, .text Status.failed.name)] ∧
      sampleAudience.listener.heard.map (fun e => (e.subject?, e.isChange, e.status?)) =
        [(some (numbered 2), true, some .approved), (some (numbered 2), true, some .failed),
          (some (numbered 2), false, some .pending)] ∧
      Event.replayed? (numbered 2) sampleAudience.listener.heard = some .pending) ∧
      ∀ told : List Event, capacity < told.length → 0 < (Listener.new.hear told).lost := by
  refine ⟨by decide +kernel, ?_⟩
  intro told hlength
  have hbehind : Listener.new.passed + capacity < told.length := by
    rw [Listener.new, Nat.zero_add]
    exact hlength
  exact Listener.lost_hear hbehind

end Feed
end Signoff
