import Mathlib
import Signoff.Desk.Call
import Signoff.Proofs.Desk.PolicySteps

/-!
What one step of a call does to the desk. It moves one proposal at most and adds one at most, and
`Effect` says how; whatever else is proved of steps is proved of these few effects.
-/

namespace Signoff

namespace Call

/-- The proposal that the next step of a call may move. -/
def moves? : Call → Option Uuid
  | .review (.approve id _) => some id
  | .review (.carryOut p _) => some p.id
  | .review (.settle p _ _) => some p.id
  | .review (.dismiss p _ _) => some p.id
  | _ => none

/-- The proposal that an approval under way has claimed and not yet brought to its end. -/
def holds? : Call → Option Uuid
  | .review (.tellApproved p _) | .review (.carryOut p _) | .review (.settle p _ _) => some p.id
  | _ => none

/-- The proposal that the next step of a call tries to add. -/
def adds? (m : Moment) : Call → Option Proposal
  | .review (.renew p) => some p
  | .intake (.place (x :: _) now _) => x.found.map fun found => .ofMatch m.fresh found now
  | _ => none

/-- A proposal that a step tries to add is a retry, or comes from the first of the decisions that a
batch has still to place. -/
inductive Adds (m : Moment) : Call → Proposal → Prop
  | renewed (p : Proposal) : Adds m (.review (.renew p)) p
  | matched {x : Decision} {f : Match} (hx : x.found = some f) (xs : List Decision) (now : Instant)
    (r : Intake.Report) : Adds m (.intake (.place (x :: xs) now r)) (.ofMatch m.fresh f now)

theorem adds_of_eq {m : Moment} {c : Call} {p : Proposal} (h : c.adds? m = some p) : c.Adds m p := by
  unfold adds? at h
  split at h
  · cases h
    exact .renewed p
  · obtain ⟨f, hx, rfl⟩ := Option.map_eq_some_iff.mp h
    exact .matched hx _ _ _
  · cases h

theorem left_review (reg : Registry) (m : Moment) (d : Desk) (r : Review) :
    (r.step reg m d).1.left ≤ r.left - 1 := by
  cases r with
  | reject id reviewer reason | retry id =>
    simp only [Review.step]
    split
    · exact Nat.zero_le _
    · split <;> simp [Review.left]
  | approve id reviewer | settle p reviewer o | dismiss p reviewer reason | renew p =>
    simp only [Review.step]
    split <;> simp [Review.left]
  | _ => simp [Review.step, Review.left]

theorem left_intake (floor : Double) (m : Moment) (d : Desk) (i : Intake) :
    (i.step floor m d).1.left ≤ i.left - 1 := by
  cases i with
  | batch records =>
    simp only [Intake.step]
    split <;> simp [Intake.left, Decision.decideAll]
  | place decisions now r =>
    cases decisions with
    | nil => exact Nat.zero_le _
    | cons x rest =>
      simp only [Intake.step]
      split
      · simp only [Intake.left, List.length_cons]
        omega
      · split <;> simp only [Intake.left, List.length_cons] <;> omega
  | _ => exact Nat.le_refl _

variable (su : Setup)

/-- No call makes more steps than are said to be left. -/
theorem left_step (m : Moment) (d : Desk) (c : Call) : (c.step su m d).1.left ≤ c.left - 1 := by
  cases c with
  | review r => exact left_review su.registry m d r
  | intake i => exact left_intake su.floor m d i
  | authoring a =>
    obtain ⟨a', s, hstep, hsteps⟩ := Authoring.steps m d a
    simp only [step, hstep]
    exact hsteps.left_le
  | dryRun request => exact Nat.zero_le _
  | dryRunDone r => exact Nat.zero_le _

/-- A call that has its result does nothing any more. -/
theorem step_of_isDone (m : Moment) {c : Call} (d : Desk) (hc : c.isDone = true) :
    c.step su m d = (c, d) := by
  rw [isDone, beq_iff_eq] at hc
  cases c with
  | review r => cases r <;> first | rfl | cases hc
  | intake i => cases i <;> first | rfl | cases hc
  | authoring a => cases a <;> first | rfl | cases hc
  | dryRun request => cases hc
  | dryRunDone r => rfl

variable (moments : Nat → Moment)

theorem runFor_succ (n first : Nat) (c : Call) (d : Desk) :
    runFor su moments (n + 1) first c d = runFor su moments n (first + 1)
      (c.step su (moments first) d).1 (c.step su (moments first) d).2 := rfl

theorem runFor_of_isDone (n first : Nat) {c : Call} (d : Desk) (hc : c.isDone = true) :
    runFor su moments n first c d = (c, d) := by
  induction n generalizing first with
  | zero => rfl
  | succ n ih =>
    rw [runFor_succ, step_of_isDone su (moments first) d hc]
    exact ih (first + 1)

theorem left_runFor (n first : Nat) (c : Call) (d : Desk) :
    (runFor su moments n first c d).1.left ≤ c.left - n := by
  induction n generalizing first c d with
  | zero => exact Nat.le_refl _
  | succ n ih =>
    have hstep := left_step su (moments first) d c
    have hrest := ih (first + 1) (c.step su (moments first) d).1 (c.step su (moments first) d).2
    rw [runFor_succ]
    omega

/-- A call that makes all its steps has its result. -/
theorem isDone_run (first : Nat) (c : Call) (d : Desk) :
    (c.run su moments first d).1.isDone = true := by
  have hleft := left_runFor su moments c.left first c d
  rw [Nat.sub_self, Nat.le_zero] at hleft
  exact beq_iff_eq.mpr hleft

/-- What each step keeps of the desk and of the call that makes it, the steps of one call without a
break keep. -/
theorem runFor_keeps {I : Desk → Call → Prop} {Q : Moment → Prop}
    (hstep : ∀ m c d, Q m → I d c → I (c.step su m d).2 (c.step su m d).1)
    (hmoments : ∀ n, Q (moments n)) (n first : Nat) {c : Call} {d : Desk} (h : I d c) :
    I (runFor su moments n first c d).2 (runFor su moments n first c d).1 := by
  induction n generalizing first c d with
  | zero => exact h
  | succ n ih => exact ih (first + 1) (hstep _ c d (hmoments first) h)

end Call

namespace Desk

/-- How often the action of a proposal was handed to a handler. -/
def dispatchesOf (d : Desk) (id : Uuid) : Nat := d.dispatched.countP (·.proposal == id)

/-- Neither proposals nor entries nor handlers were touched. -/
structure Quiet (d d' : Desk) : Prop where
  proposals : d'.store.proposals = d.store.proposals
  ledger : d'.store.ledger = d.store.ledger
  schema : d'.store.schema = d.store.schema
  dispatched : d'.dispatched = d.dispatched

/-- What can happen to a proposal in one step. -/
inductive Moved (m : Moment) (d : Desk) (id : Uuid) : Desk → Prop
  | changed (t : Store.Transition) (ht : t.id = id) :
    Moved m d id { d with store := (d.store.transition t).2 }
  | recorded (t : Store.Transition) (e : Audit.Entry) (ht : t.id = id) (he : e.id = m.fresh)
      (hp : e.proposalId = some id) :
    Moved m d id { d with store := (d.store.transitionWithEntry t e).2 }
  | handedOut (p : Proposal) (hp : p.id = id) : Moved m d id (d.dispatch p)

/-- What a step of a call does to the desk, but for policies and for what reviewers are told. -/
inductive Effect (m : Moment) (d : Desk) (c : Call) : Desk → Prop
  | quiet (d' : Desk) (hm : c.moves? = none) (ha : c.adds? m = none) (h : Quiet d d') :
    Effect m d c d'
  | added (p : Proposal) (hm : c.moves? = none) (ha : c.adds? m = some p) :
    Effect m d c { d with store := (d.store.insertProposal p).2 }
  | moved (id : Uuid) (d' : Desk) (hm : c.moves? = some id) (ha : c.adds? m = none)
      (hd : c.holds? = none → d'.dispatched = d.dispatched) (h : Moved m d id d') :
    Effect m d c d'

theorem quiet_refl (d : Desk) : Quiet d d := ⟨rfl, rfl, rfl, rfl⟩

theorem quiet_of_eq {d d' : Desk} (h : d' = d) : Quiet d d' := h ▸ quiet_refl d'

theorem quiet_tell (d : Desk) (e : Proposal.Event) : Quiet d (d.tell e) := ⟨rfl, rfl, rfl, rfl⟩

end Desk

open Desk

variable {d : Desk} {m : Moment}

theorem approve_desk (reg : Registry) (id : Uuid) (reviewer : Option String) :
    (Review.step reg m d (.approve id reviewer)).2 =
      (d.on (·.transition (Review.claim id reviewer m.now))).2 := by
  rw [Review.step]
  split <;> next h => rw [h]

theorem settle_desk (reg : Registry) (p : Proposal) (reviewer : Option String) (o : Outcome) :
    (Review.step reg m d (.settle p reviewer o)).2 =
      (d.on (·.transitionWithEntry (Review.ending p.id o)
        (.ofExecution m.fresh p (.ofReviewer reviewer) o m.now))).2 := by
  rw [Review.step]
  split <;> next h => rw [h]

theorem dismiss_desk (reg : Registry) (p : Proposal) (reviewer reason : Option String) :
    (Review.step reg m d (.dismiss p reviewer reason)).2 =
      (d.on (·.transitionWithEntry (Review.rejection p.id reviewer m.now)
        (.ofRejection m.fresh p (.ofReviewer reviewer) reason m.now))).2 := by
  rw [Review.step]
  split <;> next h => rw [h]

theorem renew_desk (reg : Registry) (p : Proposal) :
    (Review.step reg m d (.renew p)).2 = (d.on (·.insertProposal p)).2 := by
  rw [Review.step]
  split <;> next h => rw [h]

theorem reject_desk (reg : Registry) (id : Uuid) (reviewer reason : Option String) :
    (Review.step reg m d (.reject id reviewer reason)).2 = d := by
  rw [Review.step]
  split
  · rfl
  · split <;> rfl

theorem retry_desk (reg : Registry) (id : Uuid) : (Review.step reg m d (.retry id)).2 = d := by
  rw [Review.step]
  split
  · rfl
  · split <;> rfl

theorem batch_desk (floor : Double) (records : List Record) :
    (Intake.step floor m d (.batch records)).2 = d := by
  rw [Intake.step]
  split <;> rfl

theorem effect_review (reg : Registry) (r : Review) :
    Effect m d (.review r) (r.step reg m d).2 := by
  cases r with
  | approve id reviewer =>
    rw [approve_desk]
    exact .moved id _ rfl rfl (fun _ => rfl) (.changed (Review.claim id reviewer m.now) rfl)
  | settle p reviewer o =>
    rw [settle_desk]
    exact .moved p.id _ rfl rfl (fun _ => rfl) (.recorded (Review.ending p.id o) _ rfl rfl rfl)
  | dismiss p reviewer reason =>
    rw [dismiss_desk]
    exact .moved p.id _ rfl rfl (fun _ => rfl)
      (.recorded (Review.rejection p.id reviewer m.now) _ rfl rfl rfl)
  | carryOut p reviewer =>
    exact .moved p.id _ rfl rfl (fun h => absurd h (Option.some_ne_none _)) (.handedOut p rfl)
  | renew p =>
    rw [renew_desk]
    exact .added p rfl rfl
  | reject id reviewer reason => exact .quiet _ rfl rfl (quiet_of_eq (reject_desk ..))
  | retry id => exact .quiet _ rfl rfl (quiet_of_eq (retry_desk ..))
  | tellApproved p reviewer => exact .quiet _ rfl rfl (quiet_tell ..)
  | tellSettled p o => exact .quiet _ rfl rfl (quiet_tell ..)
  | tellRejected id => exact .quiet _ rfl rfl (quiet_tell ..)
  | tellRenewed p => exact .quiet _ rfl rfl (quiet_tell ..)
  | reread id => exact .quiet _ rfl rfl (quiet_refl d)
  | refuse id target => exact .quiet _ rfl rfl (quiet_refl d)
  | done r => exact .quiet _ rfl rfl (quiet_refl d)

theorem effect_intake (floor : Double) (i : Intake) :
    Effect m d (.intake i) (i.step floor m d).2 := by
  cases i with
  | batch records => exact .quiet _ rfl rfl (quiet_of_eq (batch_desk ..))
  | place decisions now r =>
    cases decisions with
    | nil => exact .quiet _ rfl rfl (quiet_refl d)
    | cons x rest =>
      cases hf : x.found with
      | none =>
        have h : (Intake.step floor m d (.place (x :: rest) now r)).2 = d := by
          simp only [Intake.step, hf]
        refine .quiet _ rfl ?_ (quiet_of_eq h)
        simp only [Call.adds?, hf, Option.map_none]
      | some found =>
        have h : (Intake.step floor m d (.place (x :: rest) now r)).2 =
            (d.on (·.insertProposal (.ofMatch m.fresh found now))).2 := by
          simp only [Intake.step, hf]
          split <;> next h => rw [h]
        rw [h]
        refine .added _ rfl ?_
        simp only [Call.adds?, hf, Option.map_some]
  | tellProposed p decisions now r => exact .quiet _ rfl rfl (quiet_tell ..)
  | done r => exact .quiet _ rfl rfl (quiet_refl d)

/-- Policies change under a call that keeps them, and nothing else. -/
theorem quiet_authoring (a : Authoring) : Quiet d (a.step m d).2 := by
  obtain ⟨a', s, hstep, hsteps⟩ := Authoring.steps m d a
  have honly := hsteps.policiesOnly
  rw [hstep]
  exact ⟨honly.proposals, honly.ledger, honly.schema, rfl⟩

/-- Every step of a call is one of these. -/
theorem effect_step (su : Setup) (c : Call) : Effect m d c (c.step su m d).2 := by
  cases c with
  | review r => exact effect_review su.registry r
  | intake i => exact effect_intake su.floor i
  | authoring a => exact .quiet _ rfl rfl (quiet_authoring a)
  | dryRun request => exact .quiet _ rfl rfl (quiet_refl d)
  | dryRunDone r => exact .quiet _ rfl rfl (quiet_refl d)

theorem ready_effect {c : Call} {d' : Desk} (hr : d.store.Ready) (h : Effect m d c d') :
    d'.store.Ready := by
  cases h with
  | quiet _ _ _ h =>
    exact ⟨⟨h.proposals ▸ hr.proposals, h.ledger ▸ hr.ledger⟩, h.schema ▸ hr.hasProposals,
      h.schema ▸ hr.hasLedger⟩
  | added p _ _ => exact hr.insertProposal p
  | moved id _ _ _ _ h =>
    cases h with
    | changed t _ => exact hr.transition t
    | recorded t e _ _ _ => exact hr.transitionWithEntry t e
    | handedOut p _ => exact hr

/-- A step adds no entry but one under the identifier that it finds. -/
theorem unused_effect {c : Call} {d' : Desk} {id : Uuid} (hr : d.store.Ready)
    (h : Effect m d c d') (hu : d.store.Unused id) (hne : m.fresh ≠ id) : d'.store.Unused id := by
  cases h with
  | quiet _ _ _ h => exact hu.of_ledger h.ledger
  | added p _ _ =>
    refine hu.of_ledger ?_
    rcases Store.insertProposal_cases hr p with h | h <;> simp only [h]
  | moved other _ _ _ _ h =>
    cases h with
    | changed t _ =>
      refine hu.of_ledger ?_
      rcases Store.transition_cases d.store t with ⟨h, -⟩ | ⟨-, h⟩ <;>
        simp only [h, Store.changed_ledger]
    | handedOut p _ => exact hu
    -- the only write that adds an entry, which takes the identifier of the moment
    | recorded t e _ he _ =>
      rcases Store.transitionWithEntry_cases d.store t e with h | ⟨-, h⟩
      · exact hu.of_ledger (by simp only [h])
      · intro f hf
        simp only [h, Store.changedWith, List.mem_append, List.mem_singleton] at hf
        rcases hf with hf | rfl
        · exact hu f hf
        · intro heq
          exact hne (he ▸ Store.text_injective (Store.Cell.text.inj heq))

/-- A schedule whose clock keeps to the years of four digits and whose identifiers are new. -/
structure Ordinary (s : Store) (turns : List Turn) : Prop where
  clock : ∀ x ∈ turns, x.moment.now.Sortable
  distinct : (turns.map (·.moment.fresh)).Nodup
  unused : ∀ x ∈ turns, s.Unused x.moment.fresh

theorem get_set {calls : List Call} {i j : Nat} {c' u : Call}
    (hj : (calls.set i c')[j]? = some u) : i = j ∧ u = c' ∨ i ≠ j ∧ calls[j]? = some u := by
  rw [List.getElem?_set] at hj
  split_ifs at hj with hij hlt
  · exact .inl ⟨hij, (Option.some.inj hj).symm⟩
  · exact .inr ⟨hij, hj⟩

theorem get_set_self {calls : List Call} {i : Nat} {c : Call} (hc : calls[i]? = some c)
    (c' : Call) : (calls.set i c')[i]? = some c' :=
  List.getElem?_set_self (List.getElem?_eq_some_iff.mp hc).1

theorem get_set_others {P : Nat → Call → Prop} {calls : List Call} {i : Nat} (c' : Call)
    (others : ∀ j c, j ≠ i → calls[j]? = some c → P j c) :
    ∀ j c, j ≠ i → (calls.set i c')[j]? = some c → P j c := by
  intro j c hne hj
  rcases get_set hj with ⟨hij, -⟩ | ⟨-, hj⟩
  · exact absurd hij.symm hne
  · exact others j c hne hj

section Traffic

variable {t : Traffic} {x : Turn} {c : Call}

theorem step_of_get (hc : t.calls[x.who]? = some c) :
    t.step x = ⟨(c.step x.setup x.moment t.desk).2,
      t.calls.set x.who (c.step x.setup x.moment t.desk).1⟩ := by
  simp only [Traffic.step, hc]

theorem step_of_none (hc : t.calls[x.who]? = none) : t.step x = t := by
  simp only [Traffic.step, hc]

/-- No call is moved on by the step of another. -/
theorem get_step_of_ne {i : Nat} (h : x.who ≠ i) : (t.step x).calls[i]? = t.calls[i]? := by
  cases hc : t.calls[x.who]? with
  | none => rw [step_of_none hc]
  | some c =>
    rw [step_of_get hc]
    exact List.getElem?_set_ne h

theorem get_run_of_ne {i : Nat} {turns : List Turn} (h : ∀ x ∈ turns, x.who ≠ i) :
    (t.run turns).calls[i]? = t.calls[i]? := by
  induction turns generalizing t with
  | nil => rfl
  | cons x turns ih =>
    have hrest := ih (t := t.step x) fun y hy => h y (List.mem_cons_of_mem _ hy)
    exact hrest.trans (get_step_of_ne (h x List.mem_cons_self))

/-- A call that has its result keeps it. -/
theorem get_run_of_isDone {i : Nat} (hc : t.calls[i]? = some c) (hdone : c.isDone = true)
    (turns : List Turn) : (t.run turns).calls[i]? = some c := by
  induction turns generalizing t with
  | nil => exact hc
  | cons x turns ih =>
    refine ih (t := t.step x) ?_
    by_cases hwho : x.who = i
    · rw [← hwho] at hc ⊢
      rw [step_of_get hc, Call.step_of_isDone _ _ _ hdone]
      exact get_set_self hc c
    · rw [get_step_of_ne hwho]
      exact hc

theorem run_append (t : Traffic) (turns later : List Turn) :
    t.run (turns ++ later) = (t.run turns).run later := List.foldl_append ..

/-- What each step keeps of the desk and of the call that makes it, a run keeps of the desk and of all
calls. -/
theorem run_keeps {I : Desk → Prop} {P : Call → Prop} {Q : Turn → Prop}
    (hstep : ∀ x c d, Q x → I d → P c →
      I (c.step x.setup x.moment d).2 ∧ P (c.step x.setup x.moment d).1)
    (hd : I t.desk) (hc : ∀ c ∈ t.calls, P c) {turns : List Turn} (hturns : ∀ x ∈ turns, Q x) :
    I (t.run turns).desk ∧ ∀ c ∈ (t.run turns).calls, P c := by
  -- over the turns; the other calls stay as they were, so that only the one that moved is new
  induction turns generalizing t with
  | nil => exact ⟨hd, hc⟩
  | cons x turns ih =>
    have hfirst := hturns x List.mem_cons_self
    have hrest := fun y hy => hturns y (List.mem_cons_of_mem _ hy)
    change I ((t.step x).run turns).desk ∧ ∀ c ∈ ((t.step x).run turns).calls, P c
    cases hx : t.calls[x.who]? with
    | none =>
      rw [step_of_none hx]
      exact ih hd hc hrest
    | some c =>
      obtain ⟨hdesk, hcall⟩ := hstep x c t.desk hfirst hd (hc c (List.mem_of_getElem? hx))
      rw [step_of_get hx]
      refine ih hdesk ?_ hrest
      intro u hu
      rcases List.mem_or_eq_of_mem_set hu with hu | rfl
      · exact hc u hu
      · exact hcall

theorem Store.Ready.step (hr : t.desk.store.Ready) (x : Turn) : (t.step x).desk.store.Ready := by
  cases hc : t.calls[x.who]? with
  | none => rwa [step_of_none hc]
  | some c =>
    rw [step_of_get hc]
    exact ready_effect hr (effect_step x.setup c)

theorem Ordinary.step {turns : List Turn} (hr : t.desk.store.Ready)
    (ho : Ordinary t.desk.store (x :: turns)) : Ordinary (t.step x).desk.store turns := by
  have hdistinct := ho.distinct
  rw [List.map_cons, List.nodup_cons] at hdistinct
  refine ⟨fun y hy => ho.clock y (List.mem_cons_of_mem _ hy), hdistinct.2, fun y hy => ?_⟩
  have hunused := ho.unused y (List.mem_cons_of_mem _ hy)
  cases hc : t.calls[x.who]? with
  | none => rwa [step_of_none hc]
  | some c =>
    rw [step_of_get hc]
    refine unused_effect hr (effect_step x.setup c) hunused ?_
    intro heq
    exact hdistinct.1 (List.mem_map.mpr ⟨y, hy, heq.symm⟩)

end Traffic

/-- Identifiers for use in examples. -/
def numbered (n : Nat) : Uuid :=
  ⟨String.ofList ("00000000-0000-0000-0000-00000000000".toList ++ [Nat.digitChar (n % 16)]), by
    have hdigit := Nat.mod_lt n (show 0 < 16 by decide)
    generalize n % 16 = digit at hdigit ⊢
    revert digit
    decide +kernel⟩

/-- A step for use in examples, when no handlers are there. -/
def sampleTurn (who n : Nat) : Turn :=
  ⟨who, ⟨.empty Registry.defaultBound, .half⟩, ⟨⟨2026, 61, 0, 0⟩, numbered n⟩⟩

theorem sortable_sampleTurn (who n : Nat) : (sampleTurn who n).moment.now.Sortable := by
  have hnow : (⟨2026, 61, 0, 0⟩ : Instant).Sortable :=
    ⟨⟨by decide, by decide, by decide⟩, by decide⟩
  exact hnow

end Signoff
