import Mathlib
import Signoff.Proofs.Desk.Effect
import Signoff.Proofs.Store.PendingUniqueness

/-!
Desks that calls lead to. Whatever calls go on and in whichever order they take their steps, the
store keeps its tables, and its proposals are all such as calls put there.
-/

namespace Signoff

/-- A desk that calls lead to from an empty one, with any handlers and any floor at each step. -/
def Desk.Reachable (d : Desk) : Prop :=
  ∃ (calls : List Call) (turns : List Turn), d = ((⟨.empty, calls⟩ : Traffic).run turns).desk

variable {d d' : Desk} {m : Moment} {c : Call}

theorem schema_effect (hr : d.store.Ready) (h : Desk.Effect m d c d') :
    d'.store.schema = d.store.schema := by
  cases h with
  | quiet _ _ _ h => exact h.schema
  | added p _ _ =>
    rcases Store.insertProposal_cases hr p with h | h <;> simp only [h]
  | moved id _ _ _ _ h =>
    cases h with
    | changed t _ =>
      rcases Store.transition_cases d.store t with ⟨h, -⟩ | ⟨-, h⟩ <;>
        simp only [h, Store.changed_schema]
    | recorded t e _ _ _ =>
      rcases Store.transitionWithEntry_cases d.store t e with h | ⟨-, h⟩ <;> simp only [h]
      rfl
    | handedOut p _ => rfl

theorem filled_effect (hf : d.store.Filled) (h : Desk.Effect m d c d') : d'.store.Filled := by
  cases h with
  | quiet _ hm ha h =>
    have hr : d'.store.Ready := ready_effect hf.toReady (.quiet (c := c) d' hm ha h)
    exact ⟨hr, h.proposals ▸ hf.recordIds, h.proposals ▸ hf.policyIds, h.proposals ▸ hf.single⟩
  | added p _ _ => exact hf.insertProposal p
  | moved id _ _ _ _ h =>
    cases h with
    | changed t _ => exact hf.apply (.change t)
    | recorded t e _ _ _ => exact hf.apply (.record t e)
    | handedOut p _ => exact hf

/-- One step leaves a filled store filled, and its tables in place. -/
theorem filled_step {t : Traffic} (hf : t.desk.store.Filled) (x : Turn) :
    (t.step x).desk.store.Filled ∧ (t.step x).desk.store.schema = t.desk.store.schema := by
  cases hc : t.calls[x.who]? with
  | none =>
    rw [step_of_none hc]
    exact ⟨hf, rfl⟩
  | some c =>
    rw [step_of_get hc]
    have heffect := effect_step (m := x.moment) (d := t.desk) x.setup c
    exact ⟨filled_effect hf heffect, schema_effect hf.toReady heffect⟩

theorem filled_run {t : Traffic} (hf : t.desk.store.Filled) (turns : List Turn) :
    (t.run turns).desk.store.Filled ∧ (t.run turns).desk.store.schema = t.desk.store.schema := by
  induction turns generalizing t with
  | nil => exact ⟨hf, rfl⟩
  | cons x turns ih =>
    obtain ⟨hstep, hschema⟩ := filled_step hf x
    obtain ⟨hrun, hschema'⟩ := ih hstep
    exact ⟨hrun, hschema'.trans hschema⟩

/-- The steps of one call without a break leave a filled store filled. -/
theorem filled_runFor (su : Setup) (moments : Nat → Moment) (n first : Nat) (c : Call)
    (hf : d.store.Filled) : (c.runFor su moments n first d).2.store.Filled := by
  refine Call.runFor_keeps su moments (I := fun d _ => d.store.Filled) (Q := fun _ => True) ?_
    (fun _ => trivial) n first hf
  intro m c d _ hf
  exact filled_effect hf (effect_step su c)

theorem Desk.Reachable.filled (h : d.Reachable) : d.store.Filled := by
  obtain ⟨calls, turns, rfl⟩ := h
  exact (filled_run Store.filled_empty turns).1

/-- The tables are those of an empty store. -/
theorem Desk.Reachable.schema (h : d.Reachable) : d.store.schema = Store.empty.schema := by
  obtain ⟨calls, turns, rfl⟩ := h
  exact (filled_run (t := ⟨.empty, calls⟩) Store.filled_empty turns).2

end Signoff
