import Mathlib
import Signoff.Proofs.Desk.Creation
import Signoff.Proofs.Desk.Race
import Signoff.Proofs.Store.Storable

/-!
What every stored proposal satisfies, whatever calls are under way: no entry and no dispatch while
it is pending, one approval that has it while it is approved, one entry about its end, and one
dispatch when it was carried out. The invariant speaks of every identifier, also of those that
nobody has used yet.
-/

namespace Signoff

namespace Call

/-- Whether all that a call will write down can be read back. -/
def Bears : Call → Prop
  | .review (.renew p) => p.status = .pending ∧ p.Storable
  | .intake (.batch records) => ∀ r ∈ records, r.Written
  | .intake (.place decisions now _) | .intake (.tellProposed _ decisions now _) =>
    now.Sortable ∧ ∀ x ∈ decisions, ∀ f, x.found = some f → f.Storable
  | _ => True

end Call

variable {d : Desk} {su : Setup} {m : Moment} {id : Uuid} {c : Call}

theorem holds?_of_holding {n : Nat} (h : Holding id n c) : c.holds? = some id := by
  cases h with
  | tellApproved p _ hp => exact congrArg some hp
  | carryOut p _ hp => exact congrArg some hp
  | settle p _ _ hp => exact congrArg some hp

theorem not_holds?_of_waiting {target : Status} (h : Waiting id target c) : c.holds? ≠ some id := by
  cases h <;> exact (Option.some_ne_none id).symm

theorem not_holds?_of_late {target : Status} (h : Late id target c) : c.holds? ≠ some id := by
  cases h <;> exact (Option.some_ne_none id).symm

theorem not_holds?_of_won {target final : Status} (h : Won id target final c) : c.holds? ≠ some id := by
  cases h <;> exact (Option.some_ne_none id).symm

/-- A call has a proposal after a step only if it had it before, or claimed it just then. -/
theorem holds?_step (su : Setup) (hr : d.store.Ready) (h : (c.step su m d).1.holds? = some id) :
    c.holds? = some id ∨ ∃ reviewer, c = .review (.approve id reviewer) := by
  rcases c with r | i | a | q | q
  · have hleads := leads_step (m := m) su.registry hr r
    simp only [Call.step] at h
    generalize (r.step su.registry m d).1 = r' at *
    cases hleads with
    | claimed p reviewer => exact .inr ⟨reviewer, by cases h; rfl⟩
    | announced p reviewer => exact .inl h
    | handedOut p reviewer o => exact .inl h
    | _ => cases h
  all_goals cases h

theorem waiting_of_moves? (hm : c.moves? = some id) (hc : c.holds? ≠ some id) :
    ∃ target, Waiting id target c := by
  unfold Call.moves? at hm
  split at hm
  · cases hm
    exact ⟨_, .approve _⟩
  · exact absurd hm hc
  · exact absurd hm hc
  · cases hm
    exact ⟨_, .dismiss _ _ _ rfl⟩
  · cases hm

theorem absent_step {target : Status} (su : Setup) (hr : d.store.Ready)
    (hrow : d.store.rowOf id = none) (hc : Waiting id target c) :
    (c.step su m d).2 = d ∧ (c.step su m d).1.holds? ≠ some id := by
  cases hc with
  | approve reviewer =>
    rw [step_review (approve_step_absent su.registry reviewer hr hrow)]
    exact ⟨rfl, (Option.some_ne_none id).symm⟩
  | reject reviewer reason =>
    rw [step_review (reject_step_absent su.registry reviewer reason hr hrow)]
    exact ⟨rfl, (Option.some_ne_none id).symm⟩
  | dismiss p reviewer reason hp =>
    subst hp
    rw [step_review (dismiss_step_absent su.registry reviewer reason hr hrow)]
    exact ⟨rfl, (Option.some_ne_none p.id).symm⟩

theorem storable_of_adds? {p : Proposal} (h : c.Bears) (ha : c.adds? m = some p) :
    p.status = .pending ∧ p.Storable := by
  cases Call.adds_of_eq ha with
  | renewed p => exact h
  | matched hx xs now r => exact ⟨rfl, (h.2 _ List.mem_cons_self _ hx).ofMatch m.fresh h.1⟩

theorem bears_review (reg : Registry) (hr : d.store.Ready) (hnow : m.now.Sortable) (r : Review) :
    (Call.review (r.step reg m d).1).Bears := by
  have hleads := leads_step (m := m) reg hr r
  generalize (r.step reg m d).1 = r' at *
  cases hleads with
  | retried p r hp => exact ⟨rfl, hp.retried m.fresh hnow⟩
  | _ => trivial

theorem bears_intake (floor : Double) (hnow : m.now.Sortable) {i : Intake}
    (h : (Call.intake i).Bears) : (Call.intake (i.step floor m d).1).Bears := by
  cases i with
  | batch records =>
    rw [Intake.step]
    split
    · trivial
    · next policies hp =>
      exact ⟨hnow, Decision.storable_decideAll m.now h fun p hmem => Store.legible_listed hp hmem⟩
  | place decisions now r =>
    cases decisions with
    | nil => trivial
    | cons x rest =>
      have hrest : now.Sortable ∧ ∀ y ∈ rest, ∀ f, y.found = some f → f.Storable :=
        ⟨h.1, fun y hy => h.2 y (List.mem_cons_of_mem _ hy)⟩
      rw [Intake.step]
      dsimp only
      split
      · exact hrest
      · split
        · trivial
        · exact hrest
        · exact hrest
  | tellProposed p decisions now r => exact h
  | done r => trivial

theorem bears_step (su : Setup) (hr : d.store.Ready) (hnow : m.now.Sortable) (h : c.Bears) :
    (c.step su m d).1.Bears := by
  rcases c with r | i | a | q | q
  · exact bears_review su.registry hr hnow r
  · exact bears_intake su.floor hnow h
  · trivial
  · trivial
  · trivial

/-- How a proposal stands among calls: it is not there yet, it is pending, one call has it, or it
came to its end. -/
inductive Stands (id : Uuid) (t : Traffic) : Prop
  | absent (hrow : t.desk.store.rowOf id = none) (hentries : t.desk.store.entriesOn id = [])
      (hhanded : t.desk.dispatchesOf id = 0) (free : ∀ c ∈ t.calls, c.holds? ≠ some id)
  | pending (h : (t.desk.file id).Shows id .pending [] 0)
      (free : ∀ c ∈ t.calls, c.holds? ≠ some id)
  | held (i n : Nat) (c : Call) (hi : t.calls[i]? = some c) (hc : Holding id n c)
      (h : (t.desk.file id).Shows id .approved [] n)
      (others : ∀ j c, j ≠ i → t.calls[j]? = some c → c.holds? ≠ some id)
  | ended (final : Status) (e : Store.EntryRow) (n : Nat)
      (hfinal : (final = .executed ∨ final = .failed) ∧ n = 1 ∨ final = .rejected ∧ n = 0)
      (he : e.outcome = .text final.name) (h : (t.desk.file id).Shows id final [e] n)
      (free : ∀ c ∈ t.calls, c.holds? ≠ some id)

section Invariant

variable {t : Traffic} {x : Turn}

theorem free_set {calls : List Call} {i : Nat} {c' : Call} (h : ∀ c ∈ calls, c.holds? ≠ some id)
    (hc : c'.holds? ≠ some id) : ∀ c ∈ calls.set i c', c.holds? ≠ some id := by
  intro c hmem
  rcases List.mem_or_eq_of_mem_set hmem with hmem | rfl
  · exact h c hmem
  · exact hc

theorem held_set {d : Desk} {calls : List Call} {i k n : Nat} {owner c' : Call}
    (hi : calls[i]? = some owner) (hold : Holding id n owner)
    (h : (d.file id).Shows id .approved [] n)
    (others : ∀ j c, j ≠ i → calls[j]? = some c → c.holds? ≠ some id) (hne : k ≠ i)
    (hc : c'.holds? ≠ some id) : Stands id ⟨d, calls.set k c'⟩ := by
  refine .held i n owner ?_ hold h fun j u hj hu => ?_
  · rw [List.getElem?_set_ne hne]
    exact hi
  · rcases get_set hu with ⟨-, rfl⟩ | ⟨-, hu⟩
    · exact hc
    · exact others j u hj hu

/-- A step of a call that neither has the proposal nor may move it. -/
theorem stands_away (hr : t.desk.store.Ready) (h : Stands id t) (hc : t.calls[x.who]? = some c)
    (hb : c.Bears) (hm : c.moves? ≠ some id) (hh : c.holds? ≠ some id) : Stands id (t.step x) := by
  have hafter : (c.step x.setup x.moment t.desk).1.holds? ≠ some id := by
    intro hafter
    rcases holds?_step x.setup hr hafter with hbefore | ⟨reviewer, rfl⟩
    · exact hh hbefore
    · exact hm rfl
  have hfile := Desk.file_effect hr (effect_step x.setup c) hm (m := x.moment)
  rw [step_of_get hc]
  generalize (c.step x.setup x.moment t.desk).1 = c' at *
  generalize (c.step x.setup x.moment t.desk).2 = d' at *
  -- the file is the same, so the proposal stands where it stood, unless this step adds it
  rcases hfile with hfile | ⟨p, ha, hid, -, hnone, hfile⟩
  · cases h with
    | absent hrow hentries hhanded free =>
      refine .absent ?_ ?_ ?_ (free_set free hafter)
      · exact (congrArg File.row hfile).trans hrow
      · exact (congrArg File.entries hfile).trans hentries
      · exact (congrArg File.handed hfile).trans hhanded
    | pending h free => exact .pending (hfile ▸ h) (free_set free hafter)
    | held i n owner hi hold h others =>
      have hne : x.who ≠ i := by
        rintro rfl
        rw [hc] at hi
        cases hi
        exact hh (holds?_of_holding hold)
      exact held_set hi hold (hfile ▸ h) others hne hafter
    | ended final e n hfinal he h free =>
      exact .ended final e n hfinal he (hfile ▸ h) (free_set free hafter)
  · -- the proposal is new, so nothing can be on record for it
    obtain ⟨hstatus, hstorable⟩ := storable_of_adds? hb ha
    cases h with
    | absent hrow hentries hhanded free =>
      refine .pending ⟨⟨_, _, ?_, Store.read_ofProposal hstorable, hid, hstatus⟩, ?_, ?_⟩
        (free_set free hafter)
      · rw [hfile]
      · rw [hfile]
        exact hentries
      · rw [hfile]
        exact hhanded
    | pending h _ => exact absurd hnone h.rowOf_ne
    | held _ _ _ _ _ h _ => exact absurd hnone h.rowOf_ne
    | ended _ _ _ _ _ h _ => exact absurd hnone h.rowOf_ne

/-- A step of a decision on the proposal that does not have it. -/
theorem stands_waiting {target : Status} (hr : t.desk.store.Ready) (h : Stands id t)
    (hnow : x.moment.now.Sortable) (hu : t.desk.store.Unused x.moment.fresh)
    (hc : t.calls[x.who]? = some c) (hw : Waiting id target c) : Stands id (t.step x) := by
  have hself (c' : Call) : (t.calls.set x.who c')[x.who]? = some c' := get_set_self hc c'
  have hlate {status : Status} {entries : List Store.EntryRow} {handed : Nat}
      (h : (t.desk.file id).Shows id status entries handed) (hs : status ≠ .pending) :
      (c.step x.setup x.moment t.desk).1.holds? ≠ some id ∧
        (c.step x.setup x.moment t.desk).2 = t.desk := by
    obtain ⟨hl, hd⟩ := late_step x.setup (m := x.moment) hr h hs (.inl hw)
    exact ⟨not_holds?_of_late hl, hd⟩
  rw [step_of_get hc]
  cases h with
  | absent hrow hentries hhanded free =>
    obtain ⟨hd, hn⟩ := absent_step x.setup (m := x.moment) hr hrow hw
    rw [hd]
    exact .absent hrow hentries hhanded (free_set free hn)
  | pending h free =>
    rcases waiting_step x.setup hr h hnow hu hw with
      ⟨-, hold, hshows⟩ | ⟨hwait, hd⟩ | ⟨-, hwon, e, he, hshows⟩
    · refine .held x.who 0 _ (hself _) hold hshows ?_
      exact get_set_others (P := fun _ u => u.holds? ≠ some id) _ fun j u _ hu =>
        free u (List.mem_of_getElem? hu)
    · rw [hd]
      exact .pending h (free_set free (not_holds?_of_waiting hwait))
    · exact .ended .rejected e 0 (.inr ⟨rfl, rfl⟩) he hshows
        (free_set free (not_holds?_of_won hwon))
  | held i n owner hi hold h others =>
    -- whoever comes now is late, and the owner is another call
    obtain ⟨hn, hd⟩ := hlate h (by decide)
    rw [hd]
    have hne : x.who ≠ i := by
      rintro rfl
      rw [hc] at hi
      cases hi
      exact not_holds?_of_waiting hw (holds?_of_holding hold)
    exact held_set hi hold h others hne hn
  | ended final e n hfinal he h free =>
    obtain ⟨hn, hd⟩ := hlate h (by rintro rfl; simp at hfinal)
    rw [hd]
    exact .ended final e n hfinal he h (free_set free hn)

/-- A step of the approval that has the proposal. -/
theorem stands_holder (hr : t.desk.store.Ready) (h : Stands id t)
    (hu : t.desk.store.Unused x.moment.fresh) (hc : t.calls[x.who]? = some c)
    (hh : c.holds? = some id) : Stands id (t.step x) := by
  have hmem := List.mem_of_getElem? hc
  cases h with
  | absent _ _ _ free => exact absurd hh (free c hmem)
  | pending _ free => exact absurd hh (free c hmem)
  | ended _ _ _ _ _ _ free => exact absurd hh (free c hmem)
  | held i n owner hi hold h others =>
    -- nobody else has the proposal, so the call that makes the step is the one that has it
    have hwho : x.who = i := by
      by_contra hne
      exact others x.who c hne hc hh
    subst hwho
    rw [hc] at hi
    cases hi
    rw [step_of_get hc]
    have hothers (c' : Call) := get_set_others (P := fun _ u => u.holds? ≠ some id) c' others
    have hself (c' : Call) : (t.calls.set x.who c')[x.who]? = some c' := get_set_self hc c'
    have hshows : (t.desk.file id).Shows id .approved [] (0 + n) := by rwa [Nat.zero_add]
    rcases holding_step x.setup hr hshows hu hold with
      ⟨n', hold', hshows'⟩ | ⟨final, e, hwon, he, hshows'⟩
    · rw [Nat.zero_add] at hshows'
      exact .held x.who n' _ (hself _) hold' hshows' (hothers _)
    · have hfinal : final = .executed ∨ final = .failed := by
        rcases hwon.final_cases with ⟨-, h⟩ | ⟨h, -⟩
        · exact h
        · cases h
      refine .ended final e 1 (.inl ⟨hfinal, rfl⟩) he hshows' fun u hu => ?_
      obtain ⟨j, hlt, hj⟩ := List.mem_iff_getElem.mp hu
      have hj' := List.getElem?_eq_some_iff.mpr ⟨hlt, hj⟩
      by_cases hji : j = x.who
      · rw [hji, hself] at hj'
        cases hj'
        exact not_holds?_of_won hwon
      · exact hothers _ j u hji hj'

theorem stands_step (hr : t.desk.store.Ready) (hb : ∀ c ∈ t.calls, c.Bears) (h : Stands id t)
    (hnow : x.moment.now.Sortable) (hu : t.desk.store.Unused x.moment.fresh) :
    Stands id (t.step x) := by
  cases hc : t.calls[x.who]? with
  | none => rwa [step_of_none hc]
  | some c =>
    by_cases hh : c.holds? = some id
    · exact stands_holder hr h hu hc hh
    · by_cases hm : c.moves? = some id
      · obtain ⟨target, hw⟩ := waiting_of_moves? hm hh
        exact stands_waiting hr h hnow hu hc hw
      · exact stands_away hr h hc (hb c (List.mem_of_getElem? hc)) hm hh

end Invariant

theorem step_ne_approve (su : Setup) (hr : d.store.Ready) (c : Call) (reviewer : Option String) :
    (c.step su m d).1 ≠ .review (.approve id reviewer) := by
  intro h
  rcases c with r | i | a | q | q
  · have hleads := leads_step (m := m) su.registry hr r
    simp only [Call.step] at h
    generalize (r.step su.registry m d).1 = r' at *
    cases hleads <;> cases h
  all_goals cases h

/-- What every step keeps among calls that began as `start`. -/
structure Kept (start : List Call) (t : Traffic) : Prop where
  ready : t.desk.store.Ready
  bears : ∀ c ∈ t.calls, c.Bears
  stands : ∀ id, Stands id t
  claimed : ∀ (i : Nat) (c : Call) (id : Uuid), t.calls[i]? = some c →
    (c.holds? = some id ∨ ∃ reviewer, c = .review (.approve id reviewer)) →
      ∃ reviewer, start[i]? = some (.review (.approve id reviewer))

theorem kept_step {start : List Call} {t : Traffic} {x : Turn} (h : Kept start t)
    (hnow : x.moment.now.Sortable) (hu : t.desk.store.Unused x.moment.fresh) :
    Kept start (t.step x) := by
  -- what the calls bear, and who has claimed: each by whether it is the call that moved
  refine ⟨h.ready.step x, ?_, fun id => stands_step h.ready h.bears (h.stands id) hnow hu, ?_⟩
  · cases hc : t.calls[x.who]? with
    | none => rw [step_of_none hc]; exact h.bears
    | some c =>
      rw [step_of_get hc]
      intro u hmem
      rcases List.mem_or_eq_of_mem_set hmem with hmem | rfl
      · exact h.bears u hmem
      · exact bears_step x.setup h.ready hnow (h.bears c (List.mem_of_getElem? hc))
  · cases hc : t.calls[x.who]? with
    | none => rw [step_of_none hc]; exact h.claimed
    | some c =>
      rw [step_of_get hc]
      intro i u id hu' hclaims
      rcases get_set hu' with ⟨rfl, rfl⟩ | ⟨-, hu'⟩
      · rcases hclaims with hholds | ⟨reviewer, happrove⟩
        · exact h.claimed x.who c id hc (holds?_step x.setup h.ready hholds)
        · exact absurd happrove (step_ne_approve x.setup h.ready c reviewer)
      · exact h.claimed i u id hu' hclaims

theorem holds?_of_isStart (h : c.isStart = true) : c.holds? = none := by
  unfold Call.holds?
  split
  · cases h
  · cases h
  · cases h
  · rfl

theorem bears_of_isStart (h : c.isStart = true)
    (hw : ∀ records, c = .intake (.batch records) → ∀ r ∈ records, r.Written) : c.Bears := by
  rcases c with r | i | a | q | q
  · cases r <;> trivial
  · cases i with
    | batch records => exact hw records rfl
    | _ => cases h
  · trivial
  · trivial
  · trivial

/-- Before the first step there is nothing to keep but what the calls bring with them. -/
theorem kept_start {calls : List Call} (hstart : ∀ c ∈ calls, c.isStart = true)
    (hwritten : ∀ records, .intake (.batch records) ∈ calls → ∀ r ∈ records, r.Written) :
    Kept calls ⟨.empty, calls⟩ := by
  have hnone : ∀ c ∈ calls, c.holds? = none := fun c hc => holds?_of_isStart (hstart c hc)
  refine ⟨Store.ready_empty, fun c hc => ?_, fun id => ?_, fun i c id hc hclaims => ?_⟩
  · exact bears_of_isStart (hstart c hc) fun records heq => hwritten records (heq ▸ hc)
  · refine .absent rfl rfl rfl fun c hc => ?_
    rw [hnone c hc]
    exact (Option.some_ne_none id).symm
  · rcases hclaims with hholds | ⟨reviewer, rfl⟩
    · rw [hnone c (List.mem_of_getElem? hc)] at hholds
      cases hholds
    · exact ⟨reviewer, hc⟩

/-- A policy, a batch and an approval of what the batch adds, for use in examples. -/
def sampleApproval : List Call :=
  [.authoring (.create sampleDraft), .intake (.batch [⟨"m-1", []⟩]),
    .review (.approve (numbered 2) (some "ann"))]

/-- The approval finds no handler for the action. -/
def sampleDay : List Turn :=
  [sampleTurn 0 0, sampleTurn 1 1, sampleTurn 1 2, sampleTurn 1 3, sampleTurn 2 4, sampleTurn 2 5,
    sampleTurn 2 6, sampleTurn 2 7, sampleTurn 1 8, sampleTurn 2 9]

def sampleEvening : Traffic := (⟨.empty, sampleApproval⟩ : Traffic).run sampleDay

theorem written_sampleApproval (records : List Record)
    (h : .intake (.batch records) ∈ sampleApproval) : ∀ r ∈ records, r.Written := by
  have hrecords : records = [⟨"m-1", []⟩] := by simpa [sampleApproval] using h
  intro r hr
  rw [hrecords, List.mem_singleton] at hr
  rw [hr]
  exact Record.written_bare _

end Signoff
