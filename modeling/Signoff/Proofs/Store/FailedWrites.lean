import Mathlib
import Signoff.Desk.Review
import Signoff.Store.Edit
import Signoff.Proofs.Json.Fits
import Signoff.Proofs.Store.AuditedTransition

/-!
Writes that are answered with an error. A write that is refused leaves the store as it was; but a
row is read after it was written, and when it cannot be read the change stays, although the answer
is an error. An approval that breaks off in this way leaves its proposal approved.
-/

namespace Signoff.Store

/-- A call that writes, audited changes of status apart. -/
inductive Write where
  | insertPolicy (b : Policy.Body) (now : Instant)
  | updatePolicy (id : Int) (b : Policy.Body) (now : Instant)
  | setPolicyEnabled (id : Int) (enabled : Bool) (now : Instant)
  | deletePolicy (id : Int)
  | insertProposal (p : Proposal)
  | transition (t : Transition)

/-- An answer without its value. -/
def Reply.bare {α : Type} (r : Reply α) : Reply Unit := (r.1.map fun _ => (), r.2)

/-- The store with one policy more. -/
def enlarged (s : Store) (b : Policy.Body) (now : Instant) : Store :=
  { s with policies := s.policies ++ [.ofBody (s.highestPolicy + 1) b now]
           lastPolicy := s.highestPolicy + 1 }

/-- The store with another row in place of that of a policy. -/
def rewritten (s : Store) (id : Int) (f : PolicyRow → PolicyRow) : Store :=
  { s with policies := s.policies.map fun r => if r.id = id then f r else r }

/-- A row with its switch on or off. -/
def PolicyRow.switched (enabled : Bool) (now : Instant) (r : PolicyRow) : PolicyRow :=
  { r with enabled := .ofBool enabled, updated := instantCell now }

namespace Write

def run (s : Store) : Write → Reply Unit
  | .insertPolicy b now => (s.insertPolicy b now).bare
  | .updatePolicy id b now => (s.updatePolicy id b now).bare
  | .setPolicyEnabled id enabled now => (s.setPolicyEnabled id enabled now).bare
  | .deletePolicy id => (s.deletePolicy id).bare
  | .insertProposal p => (s.insertProposal p).bare
  | .transition t => (s.transition t).bare

/-- A call ends with an error before it writes: there is no such table, no number is left for a
policy, or the change of status is not in the life of a proposal. -/
def Refused (s : Store) (e : Error) : Write → Prop
  | .insertPolicy _ _ =>
    (s.schema.has .policies = false ∨ maxPolicyId ≤ s.highestPolicy) ∧ e = .query "insert_policy"
  | .updatePolicy _ _ _ => s.schema.has .policies = false ∧ e = .query "update_policy"
  | .setPolicyEnabled _ _ _ => s.schema.has .policies = false ∧ e = .query "set_policy_enabled"
  | .deletePolicy _ => s.schema.has .policies = false ∧ e = .query "delete_policy"
  | .insertProposal _ => s.schema.has .proposals = false ∧ e = .query "insert_proposal"
  | .transition t =>
    (t.source.canBecome t.target = false ∧ e = .notAllowed t.source t.target) ∨
      (t.source.canBecome t.target = true ∧ s.schema.has .proposals = false ∧
        e = .query "transition_proposal")

/-- A call writes, and ends with an error because what it wrote does not read; this is the store
that it leaves. -/
def Misread (s : Store) (e : Error) (s' : Store) : Write → Prop
  | .insertPolicy b now =>
    s.schema.has .policies = true ∧ s.highestPolicy < maxPolicyId ∧
      readInstant now.sortableText = .error e ∧ s' = s.enlarged b now
  | .updatePolicy id b now =>
    s.schema.has .policies = true ∧ ∃ r, s.policies.find? (·.id == id) = some r ∧
      (r.update b now).read = .error e ∧ s' = s.rewritten id (·.update b now)
  | .setPolicyEnabled id enabled now =>
    s.schema.has .policies = true ∧ ∃ r, s.policies.find? (·.id == id) = some r ∧
      (r.switched enabled now).read = .error e ∧ s' = s.rewritten id (·.switched enabled now)
  | .deletePolicy _ => False
  | .insertProposal _ => False
  | .transition t =>
    t.source.canBecome t.target = true ∧ s.schema.has .proposals = true ∧
      ∃ r, s.proposals.find? t.appliesTo = some r ∧ (r.apply t).read = .error e ∧ s' = s.changed t

end Write

theorem bare_error {α : Type} {r : Reply α} {e : Error} {s : Store} :
    r.bare = (.error e, s) ↔ r = (.error e, s) := by
  obtain ⟨_ | _, s'⟩ := r <;> simp [Reply.bare, Except.map]

/-- A policy is added before its time is read back. -/
theorem insertPolicy_error {s s' : Store} {b : Policy.Body} {now : Instant} {e : Error} :
    s.insertPolicy b now = (.error e, s') ↔
      (Write.Refused s e (.insertPolicy b now) ∧ s' = s) ∨
        Write.Misread s e s' (.insertPolicy b now) := by
  unfold insertPolicy requires Write.Refused Write.Misread
  cases h : s.schema.has .policies with
  | false => simp [eq_comm]
  | true =>
    by_cases hfull : maxPolicyId ≤ s.highestPolicy
    · simp [hfull, eq_comm]
    · simp [hfull, map_error, not_le.mp hfull, enlarged, eq_comm (a := s')]

section Rewriting

variable {f : PolicyRow → PolicyRow} (hf : ∀ r, (f r).id = r.id)

include hf

theorem id_rewritten (id : Int) (r : PolicyRow) : (if r.id = id then f r else r).id = r.id := by
  split_ifs
  · exact hf r
  · rfl

theorem ids_rewritten (id : Int) (rows : List PolicyRow) :
    (rows.map fun r => if r.id = id then f r else r).map (·.id) = rows.map (·.id) := by
  rw [List.map_map]
  exact List.map_congr_left fun r _ => id_rewritten hf id r

/-- A row under a number after rows under one number were rewritten. -/
theorem find_map (id other : Int) (rows : List PolicyRow) :
    (rows.map fun r => if r.id = id then f r else r).find? (·.id == other) =
      (rows.find? (·.id == other)).map fun r => if r.id = id then f r else r := by
  simp only [List.find?_map, Function.comp_def, id_rewritten hf]

/-- A row is found under its number also after it was changed. -/
theorem find_rewritten {s : Store} {id : Int} :
    (s.rewritten id f).policies.find? (·.id == id) = (s.policies.find? (·.id == id)).map f := by
  rw [rewritten, find_map hf]
  cases hr : s.policies.find? (·.id == id) with
  | none => rfl
  | some r =>
    have hfound : r.id = id := by simpa using List.find?_some hr
    simp [hfound]

end Rewriting

/-- A policy is changed before it is read back. -/
theorem readBack_error {s s' : Store} {call : String} {id : Int} {f : PolicyRow → PolicyRow}
    {e : Error} (hf : ∀ r, (f r).id = r.id) :
    readBack (s.changePolicy call id f) id = (.error e, s') ↔
      ((s.schema.has .policies = false ∧ e = .query call) ∧ s' = s) ∨
        (s.schema.has .policies = true ∧ ∃ r, s.policies.find? (·.id == id) = some r ∧
          (f r).read = .error e ∧ s' = s.rewritten id f) := by
  cases h : s.schema.has .policies with
  | false => simp [changePolicy, requires, h, readBack, eq_comm]
  | true =>
    have hchange : s.changePolicy call id f =
        (.ok (s.policies.any (·.id == id)), s.rewritten id f) := by
      simp [changePolicy, requires, h, rewritten]
    have hany : s.policies.any (·.id == id) = (s.policies.find? (·.id == id)).isSome := by
      rw [Bool.eq_iff_iff, List.any_eq_true, List.find?_isSome]
    rw [hchange, hany]
    cases hr : s.policies.find? (·.id == id) with
    | none => simp [readBack]
    | some r =>
      -- the second statement sees what the first one wrote
      have hget : (s.rewritten id f).getPolicy id = (f r).read.map some := by
        have hhas : (s.rewritten id f).schema.has .policies = true := h
        simp only [getPolicy, requires, hhas, if_true, find_rewritten hf, hr]
        rfl
      simp [readBack, hget, map_error, eq_comm (a := s')]

theorem deletePolicy_error {s s' : Store} {id : Int} {e : Error} :
    s.deletePolicy id = (.error e, s') ↔
      Write.Refused s e (.deletePolicy id) ∧ s' = s := by
  unfold deletePolicy requires Write.Refused
  cases s.schema.has .policies <;> simp [eq_comm]

theorem insertProposal_error {s s' : Store} {p : Proposal} {e : Error} :
    s.insertProposal p = (.error e, s') ↔
      Write.Refused s e (.insertProposal p) ∧ s' = s := by
  unfold insertProposal requires Write.Refused
  cases s.schema.has .proposals with
  | false => simp [eq_comm]
  | true => by_cases hfits : s.proposals.all (ProposalRow.ofProposal p).fitsBeside <;> simp [hfits]

/-- A status is changed before the row is read. -/
theorem transition_error {s s' : Store} {t : Transition} {e : Error} :
    s.transition t = (.error e, s') ↔
      (Write.Refused s e (.transition t) ∧ s' = s) ∨ Write.Misread s e s' (.transition t) := by
  simp only [transition, requires, Write.Refused, Write.Misread]
  cases hedge : t.source.canBecome t.target with
  | false => simp [eq_comm (a := e), eq_comm (a := s')]
  | true =>
    cases h : s.schema.has .proposals with
    | false => simp [eq_comm (a := e), eq_comm (a := s')]
    | true =>
      cases hr : s.proposals.find? t.appliesTo with
      | none => simp
      | some r => simp [map_error, changed, ProposalRow.after, eq_comm (a := s')]

/-- A write is answered with an error exactly when it is refused, and then nothing was written, or
when it was made in full and does not read back. -/
theorem run_error {s s' : Store} {w : Write} {e : Error} :
    w.run s = (.error e, s') ↔ (w.Refused s e ∧ s' = s) ∨ w.Misread s e s' := by
  cases w with
  | insertPolicy b now => exact bare_error.trans insertPolicy_error
  | updatePolicy id b now => exact bare_error.trans (readBack_error fun _ => rfl)
  | setPolicyEnabled id enabled now => exact bare_error.trans (readBack_error fun _ => rfl)
  | deletePolicy id =>
    exact bare_error.trans (deletePolicy_error.trans (or_iff_left not_false).symm)
  | insertProposal p =>
    exact bare_error.trans (insertProposal_error.trans (or_iff_left not_false).symm)
  | transition t => exact bare_error.trans transition_error

/-- An approval ends with an error of the store exactly when its claim does, and leaves the store
that the claim left. -/
theorem approve_error {reg : Registry} {m : Moment} {d d' : Desk} {id : Uuid}
    {reviewer : Option String} {e : Error} :
    Review.step reg m d (.approve id reviewer) = (.done (.error (.store e)), d') ↔
      ∃ s, (Write.transition (Review.claim id reviewer m.now)).run d.store = (.error e, s) ∧
        d' = { d with store := s } := by
  simp only [Write.run, bare_error, Review.step, Desk.on]
  obtain ⟨result, s⟩ := d.store.transition (Review.claim id reviewer m.now)
  cases result with
  | error e => simp [and_assoc, eq_comm (a := d')]
  | ok found => cases found <;> simp

/-- A claim that does not read back has the proposal approved: the row is there, with that status,
and still cannot be read. -/
theorem approved_of_misread {s s' : Store} {id : Uuid} {reviewer : Option String} {now : Instant}
    {e : Error} (h : Write.Misread s e s' (.transition (Review.claim id reviewer now))) :
    ∃ r ∈ s'.proposals, r.isOf id = true ∧ r.status = .text Status.approved.name ∧
      r.read = .error e := by
  obtain ⟨-, -, r, hr, hread, rfl⟩ := h
  obtain ⟨hid, hstatus⟩ := appliesTo_iff.mp (List.find?_some hr)
  refine ⟨r.apply (Review.claim id reviewer now), ?_, hid, rfl, hread⟩
  rw [← after_of_source hid hstatus]
  exact List.mem_map_of_mem (List.mem_of_find?_eq_some hr)

/-- Which writes are answered with an error, and what each of them leaves. A refused one leaves the
store alone, one that does not read back leaves its change; so an approval that breaks off at its
claim leaves the desk alone, or the proposal approved. -/
theorem failed_write_iff (s s' : Store) (w : Write) (e : Error) (reg : Registry) (m : Moment)
    (d d' : Desk) (id : Uuid) (reviewer : Option String) :
    (w.run s = (.error e, s') ↔ (w.Refused s e ∧ s' = s) ∨ w.Misread s e s') ∧
    (Review.step reg m d (.approve id reviewer) = (.done (.error (.store e)), d') ↔
      (Write.Refused d.store e (.transition (Review.claim id reviewer m.now)) ∧ d' = d) ∨
        (Write.Misread d.store e d'.store (.transition (Review.claim id reviewer m.now)) ∧
          d'.told = d.told ∧ d'.dispatched = d.dispatched ∧
          ∃ r ∈ d'.store.proposals, r.isOf id = true ∧ r.status = .text Status.approved.name ∧
            r.read = .error e)) := by
  refine ⟨run_error, ?_⟩
  rw [approve_error]
  constructor
  · rintro ⟨s, hrun, rfl⟩
    rcases run_error.mp hrun with ⟨hrefused, rfl⟩ | hmisread
    · exact .inl ⟨hrefused, rfl⟩
    · exact .inr ⟨hmisread, rfl, rfl, approved_of_misread hmisread⟩
  · rintro (⟨hrefused, rfl⟩ | ⟨hmisread, htold, hdispatched, -⟩)
    · exact ⟨_, run_error.mpr (.inl ⟨hrefused, rfl⟩), rfl⟩
    · -- but for its store the desk is as it was
      refine ⟨d'.store, run_error.mpr (.inr hmisread), ?_⟩
      rw [← htold, ← hdispatched]

/-- The sample store after someone else put a text that is no JSON into the summary. -/
def garbledStore : Store :=
  (sampleStore.edit "proposed_actions" Uuid.nil.text "record_summary" (some "oops")).2

def sampleClaim : Transition := Review.claim .nil (some "ann") ⟨2026, 61, 0, 0⟩

/-- The claim errs, and yet the proposal is approved. -/
theorem garbled_claim_kept :
    (Write.transition sampleClaim).run garbledStore =
        (.error .badJson, garbledStore.changed sampleClaim) ∧
      garbledStore.proposals.map (·.status) = [.text "pending"] ∧
      (garbledStore.changed sampleClaim).proposals.map (·.status) = [.text "approved"] := by
  refine ⟨run_error.mpr (.inr ⟨by decide, by decide, ?_⟩), by decide +kernel, by decide +kernel⟩
  refine ⟨{ ProposalRow.ofProposal sampleProposal with summary := .text "oops" }, ?_, ?_, rfl⟩
  · decide +kernel
  · rfl

end Signoff.Store
