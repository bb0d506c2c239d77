import Mathlib
import Signoff.Desk.Authoring
import Signoff.Proofs.Store.Operations

/-!
What one step of a call about policies does. `Steps` lists where it can lead and what it leaves of the
store; whatever else is proved of these steps is proved of this list.
-/

namespace Signoff.Authoring

open Store

/-- One step of a call about policies: what was to be done, what is to be done next, and the store
that is left. -/
inductive Steps (m : Moment) (s : Store) : Authoring → Authoring → Store → Prop
  | createFlawed (draft : Policy.Draft) (f : Policy.Draft.Flaw) (h : draft.validate = .error f) :
    Steps m s (.create draft) (.done (.error (.flawed f))) s
  | created (draft : Policy.Draft) (body : Policy.Body) (h : draft.validate = .ok body) :
    Steps m s (.create draft) (.done ((s.insertPolicy body m.now).1.mapError .store))
      (s.insertPolicy body m.now).2
  | updateFlawed (id : Int) (draft : Policy.Draft) (f : Policy.Draft.Flaw)
    (h : draft.validate = .error f) : Steps m s (.update id draft) (.done (.error (.flawed f))) s
  | updated (id : Int) (draft : Policy.Draft) (body : Policy.Body) (h : draft.validate = .ok body) :
    Steps m s (.update id draft) (afterWrite id (s.writeBody id body m.now).1)
      (s.writeBody id body m.now).2
  | refused (id : Int) (e : Error) (h : check s id = .error e) :
    Steps m s (.setEnabled id true) (.done (.error e)) s
  | allowed (id : Int) (h : check s id = .ok ()) :
    Steps m s (.setEnabled id true) (.switch id true) s
  | unchecked (id : Int) : Steps m s (.setEnabled id false) (.switch id false) s
  | switched (id : Int) (enabled : Bool) :
    Steps m s (.switch id enabled) (afterWrite id (s.writeEnabled id enabled m.now).1)
      (s.writeEnabled id enabled m.now).2
  | reread (id : Int) : Steps m s (.reread id) (.done (found s id)) s
  | removed (id : Int) : Steps m s (.delete id) .deleted (s.deletePolicy id).2
  | unremoved (id : Int) (e : Error) :
    Steps m s (.delete id) (.done (.error e)) (s.deletePolicy id).2
  | deleted : Steps m s .deleted .deleted s
  | done (r : Result) : Steps m s (.done r) (.done r) s

/-- Every step is one of these, and leaves all but the store alone. -/
theorem steps (m : Moment) (d : Desk) (a : Authoring) :
    ∃ a' s, a.step m d = (a', { d with store := s }) ∧ Steps m d.store a a' s := by
  cases a with
  | create draft =>
    cases h : draft.validate with
    | error f => exact ⟨_, _, by rw [step, h], .createFlawed draft f h⟩
    | ok body => exact ⟨_, _, by rw [step, h]; rfl, .created draft body h⟩
  | update id draft =>
    cases h : draft.validate with
    | error f => exact ⟨_, _, by rw [step, h], .updateFlawed id draft f h⟩
    | ok body => exact ⟨_, _, by rw [step, h]; rfl, .updated id draft body h⟩
  | setEnabled id enabled =>
    cases enabled with
    | false => exact ⟨_, _, rfl, .unchecked id⟩
    | true =>
      cases h : check d.store id with
      | error e => exact ⟨_, _, by rw [step, if_pos rfl, h], .refused id e h⟩
      | ok _ => exact ⟨_, _, by rw [step, if_pos rfl, h], .allowed id h⟩
  | switch id enabled => exact ⟨_, _, rfl, .switched id enabled⟩
  | reread id => exact ⟨_, _, rfl, .reread id⟩
  | delete id =>
    have hon : d.on (·.deletePolicy id) =
        ((d.store.deletePolicy id).1, { d with store := (d.store.deletePolicy id).2 }) := rfl
    rw [step, hon]
    rcases (d.store.deletePolicy id).1 with e | _ | _
    · exact ⟨_, _, rfl, .unremoved id _⟩
    · exact ⟨_, _, rfl, .unremoved id _⟩
    · exact ⟨_, _, rfl, .removed id⟩
  | deleted => exact ⟨_, _, rfl, .deleted⟩
  | done r => exact ⟨_, _, rfl, .done r⟩

/-- After a row was to be changed the call looks at it, or has come to an error. -/
theorem afterWrite_induction {P : Authoring → Prop} {id : Int} (hread : P (.reread id))
    (herror : ∀ e, P (.done (.error e))) (answer : Except Store.Error Bool) :
    P (afterWrite id answer) := by
  rcases answer with e | _ | _
  · exact herror _
  · exact herror _
  · exact hread

variable {m : Moment} {s s' : Store} {a a' : Authoring}

theorem Steps.policiesOnly (h : Steps m s a a' s') : s.PoliciesOnly s' := by
  cases h with
  | created draft body _ => exact policiesOnly_insertPolicy s body m.now
  | updated id draft body _ => exact policiesOnly_changePolicy s _ id _
  | switched id enabled => exact policiesOnly_changePolicy s _ id _
  | removed id => exact policiesOnly_deletePolicy s id
  | unremoved id e => exact policiesOnly_deletePolicy s id
  | _ => exact .refl s

theorem Steps.left_le (h : Steps m s a a' s') : a'.left ≤ a.left - 1 := by
  cases h with
  | updated id draft body _ =>
    exact afterWrite_induction (P := fun a => a.left ≤ 1) le_rfl (fun _ => Nat.zero_le _) _
  | switched id enabled =>
    exact afterWrite_induction (P := fun a => a.left ≤ 1) le_rfl (fun _ => Nat.zero_le _) _
  | allowed id _ => exact le_rfl
  | unchecked id => exact le_rfl
  | _ => exact Nat.zero_le _

end Signoff.Authoring
