import Mathlib
import Signoff.Desk.Call
import Signoff.Proofs.Desk.Effect
import Signoff.Proofs.Store.PolicyRows

/-!
What steps of calls have to do with the table of policies. Calls about proposals and records see no
more of it than the list of policies that are on, and leave it alone; a call about policies does one
of four things to it in a step.
-/

namespace Signoff

namespace Store

/-- The store with other rows of policies. -/
def withPolicies (s : Store) (rows : List PolicyRow) : Store := { s with policies := rows }

variable (s : Store) (rows : List PolicyRow)

@[simp] theorem withPolicies_policies : (s.withPolicies rows).policies = rows := rfl

@[simp] theorem withPolicies_schema : (s.withPolicies rows).schema = s.schema := rfl

theorem transition_withPolicies (t : Transition) :
    (s.withPolicies rows).transition t =
      ((s.transition t).1, (s.transition t).2.withPolicies rows) := by
  cases hedge : t.source.canBecome t.target with
  | false => simp [transition, hedge]
  | true =>
    cases htable : s.schema.has .proposals with
    | false => simp [transition, hedge, requires, htable, withPolicies]
    | true =>
      cases hrow : s.proposals.find? t.appliesTo <;>
        simp [transition, hedge, requires, htable, withPolicies, hrow]

theorem insertEntry_withPolicies (e : Audit.Entry) :
    (s.withPolicies rows).insertEntry e =
      ((s.insertEntry e).1, (s.insertEntry e).2.withPolicies rows) := by
  cases htable : s.schema.has .ledger with
  | false => simp [insertEntry, requires, htable, withPolicies]
  | true =>
    cases htaken : s.ledger.any (·.id.clashes (EntryRow.ofEntry e).id) <;>
      simp [insertEntry, requires, htable, withPolicies, htaken]

theorem transitionWithEntry_withPolicies (t : Transition) (e : Audit.Entry) :
    (s.withPolicies rows).transitionWithEntry t e =
      ((s.transitionWithEntry t e).1, (s.transitionWithEntry t e).2.withPolicies rows) := by
  rw [transitionWithEntry, transition_withPolicies, transitionWithEntry]
  obtain ⟨answer, changed⟩ := s.transition t
  cases answer with
  | error e => rfl
  | ok found =>
    cases found with
    | none => rfl
    | some p =>
      simp only [insertEntry_withPolicies]
      obtain ⟨answer, written⟩ := changed.insertEntry e
      cases answer <;> rfl

theorem insertProposal_withPolicies (p : Proposal) :
    (s.withPolicies rows).insertProposal p =
      ((s.insertProposal p).1, (s.insertProposal p).2.withPolicies rows) := by
  cases htable : s.schema.has .proposals with
  | false => simp [insertProposal, requires, htable, withPolicies]
  | true =>
    cases hfits : s.proposals.all (ProposalRow.ofProposal p).fitsBeside <;>
      simp [insertProposal, requires, htable, withPolicies, hfits]

end Store

namespace Desk

/-- The desk with other rows of policies. -/
def withPolicies (d : Desk) (rows : List Store.PolicyRow) : Desk :=
  { d with store := d.store.withPolicies rows }

end Desk

namespace Call

/-- Whether a call is about policies. -/
def onPolicies : Call → Bool
  | .authoring _ => true
  | _ => false

end Call

section Apart

variable (m : Moment) (d : Desk) (rows : List Store.PolicyRow)

theorem review_withPolicies (reg : Registry) (r : Review) :
    r.step reg m (d.withPolicies rows) =
      ((r.step reg m d).1, (r.step reg m d).2.withPolicies rows) := by
  have hfound (id : Uuid) : Review.found (d.withPolicies rows).store id = Review.found d.store id :=
    rfl
  -- a decision never looks at the policies, so that each branch is the same with other ones
  cases r with
  | approve id reviewer =>
    simp only [Review.step, Desk.on, Desk.withPolicies, Store.transition_withPolicies]
    obtain ⟨answer, s⟩ := d.store.transition (Review.claim id reviewer m.now)
    rcases answer with e | _ | p <;> rfl
  | settle p reviewer o =>
    simp only [Review.step, Desk.on, Desk.withPolicies, Store.transitionWithEntry_withPolicies]
    obtain ⟨answer, s⟩ := d.store.transitionWithEntry (Review.ending p.id o)
      (.ofExecution m.fresh p (.ofReviewer reviewer) o m.now)
    rcases answer with e | _ | _ <;> rfl
  | dismiss p reviewer reason =>
    simp only [Review.step, Desk.on, Desk.withPolicies, Store.transitionWithEntry_withPolicies]
    obtain ⟨answer, s⟩ := d.store.transitionWithEntry (Review.rejection p.id reviewer m.now)
      (.ofRejection m.fresh p (.ofReviewer reviewer) reason m.now)
    rcases answer with e | _ | _ <;> rfl
  | renew p =>
    simp only [Review.step, Desk.on, Desk.withPolicies, Store.insertProposal_withPolicies]
    obtain ⟨answer, s⟩ := d.store.insertProposal p
    rcases answer with e | _ | _ <;> rfl
  | reject id reviewer reason =>
    simp only [Review.step, hfound]
    cases Review.found d.store id with
    | error e => rfl
    | ok p => dsimp only; split <;> rfl
  | retry id =>
    simp only [Review.step, hfound]
    cases Review.found d.store id with
    | error e => rfl
    | ok p => dsimp only; split <;> rfl
  | tellApproved p reviewer => rfl
  | carryOut p reviewer => rfl
  | tellSettled p o => rfl
  | tellRejected id => rfl
  | reread id => rfl
  | tellRenewed p => rfl
  | refuse id target => rfl
  | done r => rfl

variable {m d rows}

theorem intake_withPolicies
    (hlist : (d.withPolicies rows).store.listPolicies true = d.store.listPolicies true)
    (floor : Double) (i : Intake) :
    i.step floor m (d.withPolicies rows) =
      ((i.step floor m d).1, (i.step floor m d).2.withPolicies rows) := by
  cases i with
  | batch records =>
    simp only [Intake.step, hlist]
    cases d.store.listPolicies true <;> rfl
  | place decisions now r =>
    cases decisions with
    | nil => rfl
    | cons x rest =>
      simp only [Intake.step]
      cases x.found with
      | none => rfl
      | some f =>
        simp only [Desk.on, Desk.withPolicies, Store.insertProposal_withPolicies]
        obtain ⟨answer, s⟩ := d.store.insertProposal (.ofMatch m.fresh f now)
        rcases answer with e | _ | _ <;> rfl
  | tellProposed p decisions now r => rfl
  | done r => rfl

/-- A call that is not about policies finds out nothing of them but the list of those that are on,
and changes nothing about them. -/
theorem step_withPolicies
    (hlist : (d.withPolicies rows).store.listPolicies true = d.store.listPolicies true) (su : Setup)
    {c : Call} (hc : c.onPolicies = false) :
    c.step su m (d.withPolicies rows) =
      ((c.step su m d).1, (c.step su m d).2.withPolicies rows) := by
  cases c with
  | review r => simp only [Call.step, review_withPolicies]
  | intake i => simp only [Call.step, intake_withPolicies hlist]
  | authoring a => cases hc
  | dryRun request =>
    have hdry : Authoring.dryRun (d.withPolicies rows).store su.floor request m.now =
        Authoring.dryRun d.store su.floor request m.now := by
      simp only [Authoring.dryRun, hlist]
    simp only [Call.step, hdry]
  | dryRunDone r => rfl

/-- So the table is the same after its step. -/
theorem policies_step (su : Setup) {c : Call} (hc : c.onPolicies = false) :
    (c.step su m d).2.store.policies = d.store.policies := by
  -- a desk with the rows that it has is the desk itself
  have hstep := @step_withPolicies m d d.store.policies rfl su c hc
  have hdesk := congrArg (fun x : Call × Desk => x.2.store.policies) hstep
  exact hdesk

end Apart

/-- What one step of a call does to the rows of policies. -/
inductive Call.Writes (m : Moment) (s : Store) : Call → List Store.PolicyRow → Prop
  | nothing (c : Call) : Writes m s c s.policies
  | added (draft : Policy.Draft) (body : Policy.Body) (h : draft.validate = .ok body) :
    Writes m s (.authoring (.create draft))
      (s.policies ++ [.ofBody (s.highestPolicy + 1) body m.now])
  | updated (id : Int) (draft : Policy.Draft) (body : Policy.Body) (h : draft.validate = .ok body) :
    Writes m s (.authoring (.update id draft))
      (s.policies.map fun r => if r.id = id then r.update body m.now else r)
  | switched (id : Int) (enabled : Bool) :
    Writes m s (.authoring (.switch id enabled))
      (s.policies.map fun r => if r.id = id then r.switched enabled m.now else r)
  | removed (id : Int) :
    Writes m s (.authoring (.delete id)) (s.policies.filter (·.id != id))

theorem writes_authoring (m : Moment) (d : Desk) (a : Authoring) :
    (Call.authoring a).Writes m d.store (a.step m d).2.store.policies := by
  obtain ⟨a', s, hstep, hsteps⟩ := Authoring.steps m d a
  rw [hstep]
  -- a write is left out where the table is missing, and a new row where no number is left
  cases hsteps with
  | created draft body hdraft =>
    simp only [Store.insertPolicy]
    split
    · exact .nothing _
    · split
      · exact .nothing _
      · exact .added draft body hdraft
  | updated id draft body hdraft =>
    simp only [Store.writeBody, Store.changePolicy]
    split
    · exact .nothing _
    · exact .updated id draft body hdraft
  | switched id enabled =>
    simp only [Store.writeEnabled, Store.changePolicy]
    split
    · exact .nothing _
    · exact .switched id enabled
  | removed id | unremoved id e =>
    simp only [Store.deletePolicy]
    split
    · exact .nothing _
    · exact .removed id
  | _ => exact .nothing _

/-- A call does nothing to the rows of policies in a step, or one of four things. -/
theorem Call.writes_step (su : Setup) (m : Moment) (d : Desk) (c : Call) :
    c.Writes m d.store (c.step su m d).2.store.policies := by
  cases hc : c.onPolicies with
  | false =>
    rw [policies_step su hc]
    exact .nothing c
  | true =>
    cases c with
    | authoring a => exact writes_authoring m d a
    | _ => cases hc

/-- What holds of every row holds after a step, if it holds of the rows that the step writes. -/
theorem Call.rows_step {P : Store.PolicyRow → Prop} (su : Setup) (m : Moment) {d : Desk} (c : Call)
    (hrows : ∀ r ∈ d.store.policies, P r)
    (hadded : ∀ draft body, c = .authoring (.create draft) → draft.validate = .ok body →
      P (.ofBody (d.store.highestPolicy + 1) body m.now))
    (hupdated : ∀ id draft body r, c = .authoring (.update id draft) →
      draft.validate = .ok body → r.id = id → r ∈ d.store.policies → P (r.update body m.now))
    (hswitched : ∀ id enabled r, c = .authoring (.switch id enabled) → r.id = id →
      r ∈ d.store.policies → P (r.switched enabled m.now)) :
    ∀ r ∈ (c.step su m d).2.store.policies, P r := by
  -- a row that was rewritten stands in the place of one with the number asked for
  have hmap (id : Int) (f : Store.PolicyRow → Store.PolicyRow)
      (hf : ∀ r, r.id = id → r ∈ d.store.policies → P (f r)) :
      ∀ r ∈ d.store.policies.map (fun r => if r.id = id then f r else r), P r := by
    intro r hr
    obtain ⟨u, hu, rfl⟩ := List.mem_map.mp hr
    split
    · next hid => exact hf u hid hu
    · exact hrows u hu
  have hwrites := c.writes_step su m d
  generalize (c.step su m d).2.store.policies = rows at hwrites
  cases hwrites with
  | nothing => exact hrows
  | added draft body h =>
    intro r hr
    rcases List.mem_append.mp hr with hr | hr
    · exact hrows r hr
    · rw [List.mem_singleton.mp hr]
      exact hadded draft body rfl h
  | updated id draft body h =>
    exact hmap id _ fun r hid hr => hupdated id draft body r rfl h hid hr
  | switched id enabled =>
    exact hmap id _ fun r hid hr => hswitched id enabled r rfl hid hr
  | removed id => exact fun r hr => hrows r (List.mem_of_mem_filter hr)

theorem Store.le_highestPolicy {s : Store} {r : PolicyRow} (hr : r ∈ s.policies) :
    r.id ≤ s.highestPolicy :=
  (foldl_max_le_iff.mp le_rfl).2 r.id (List.mem_map_of_mem hr)

/-- No two rows come to have one number. -/
theorem Call.ids_step (su : Setup) (m : Moment) {d : Desk} (c : Call)
    (hids : (d.store.policies.map (·.id)).Nodup) :
    ((c.step su m d).2.store.policies.map (·.id)).Nodup := by
  have hwrites := c.writes_step su m d
  generalize (c.step su m d).2.store.policies = rows at hwrites
  cases hwrites with
  | nothing => exact hids
  | added draft body h =>
    rw [List.map_append, List.nodup_append]
    refine ⟨hids, List.nodup_singleton _, ?_⟩
    intro n hn k hk
    obtain ⟨r, hr, rfl⟩ := List.mem_map.mp hn
    rw [List.mem_singleton.mp hk]
    -- the number of the new row is above those of all others
    have hle := Store.le_highestPolicy hr
    change r.id ≠ d.store.highestPolicy + 1
    omega
  | updated id draft body h =>
    rw [Store.ids_rewritten (f := (·.update body m.now)) (fun r => rfl) id]
    exact hids
  | switched id enabled =>
    rw [Store.ids_rewritten (f := (·.switched enabled m.now)) (fun r => rfl) id]
    exact hids
  | removed id => exact hids.sublist (List.filter_sublist.map _)

/-- The draft that a call brings. -/
def Call.draft? : Call → Option Policy.Draft
  | .authoring (.create draft) | .authoring (.update _ draft) => some draft
  | _ => none

end Signoff
