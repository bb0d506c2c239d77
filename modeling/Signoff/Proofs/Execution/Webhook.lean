import Mathlib
import Signoff.Launch
import Signoff.Proofs.Store.Storable

/-!
What handlers behind web addresses answer. Whatever comes back, with any status and any body, the
answer that is kept of it was read from a text, so it is nested no deeper than a reader goes. An
action that was not carried out has an error and one that was carried out has none, however its
handler ended.
-/

namespace Signoff

open Json

/-- An outcome has an error just when it is no success. -/
def Outcome.Coherent (o : Outcome) : Prop := o.success = true ↔ o.error = none

theorem Outcome.coherent_failure (error : String) : (failure error).Coherent := by
  simp [Coherent, failure]

namespace Webhook

/-- The text that came with a reply; with some codes there is none. -/
def Reply.content (reply : Reply) : String :=
  if HttpStatus.isBodiless reply.status then "" else reply.body

theorem parse?_content (reply : Reply) : parse? reply.content =
    if HttpStatus.isBodiless reply.status then none else parse? reply.body := by
  unfold Reply.content
  split <;> rfl

theorem declines_iff {answer : Option Json} : declines answer = true ↔ ∃ members,
    answer = some (.obj members) ∧ Object.get? members "success" = some (.bool false) := by
  unfold declines member?
  constructor
  · intro h
    split at h
    · next hmember =>
      split at hmember
      · exact ⟨_, rfl, hmember⟩
      · cases hmember
    · cases h
  · rintro ⟨members, rfl, hmember⟩
    simp only [hmember]

/-- A reply is a success when its code says so and its text does not deny it, and what can be read
of its text is kept in any case. -/
theorem outcome_some (reply : Reply) :
    ((outcome (some reply)).success = true ↔ (200 ≤ reply.status ∧ reply.status ≤ 299) ∧
      ¬ ∃ members, parse? reply.content = some (.obj members) ∧
        Object.get? members "success" = some (.bool false)) ∧
    (outcome (some reply)).response = parse? reply.content := by
  have hstatus : HttpStatus.isSuccess reply.status = true ↔
      200 ≤ reply.status ∧ reply.status ≤ 299 := by
    simp [HttpStatus.isSuccess]
  rw [← declines_iff, ← hstatus, parse?_content]
  unfold outcome
  rw [Option.filter_some]
  by_cases hinterim : HttpStatus.isInterim reply.status = true
  · -- no reply comes after one that only says that it will
    have hlow : reply.status < 200 := by
      simp only [HttpStatus.isInterim, Bool.and_eq_true, decide_eq_true_eq] at hinterim
      exact hinterim.1
    have hbodiless : HttpStatus.isBodiless reply.status = true := by
      simp [HttpStatus.isBodiless, hlow]
    have hno : HttpStatus.isSuccess reply.status = false := by
      simp [HttpStatus.isSuccess]
      omega
    simp [hinterim, hbodiless, hno, Outcome.failure]
  · rw [if_pos (by simpa using hinterim)]
    dsimp only
    generalize (if HttpStatus.isBodiless reply.status then none else parse? reply.body) = answer
    split_ifs with hfailed hdeclines
    · simp_all
    · simp_all
    · simp_all

theorem coherent_outcome (reply : Option Reply) : (outcome reply).Coherent := by
  unfold outcome
  split
  · exact Outcome.coherent_failure _
  · dsimp only
    split_ifs <;> simp [Outcome.Coherent]

end Webhook

/-- How a handler ends that stands behind a web address or in for a missing one, or that breaks
down. -/
inductive Ending.BuiltIn : Ending → Prop
  | answered (reply : Option Webhook.Reply) : BuiltIn (.finished (Webhook.outcome reply))
  | unconfigured (actionType : String) (params : Json) (record : Snapshot) :
    BuiltIn (Handler.unconfigured actionType params record).ending
  | brokeDown : BuiltIn .brokeDown

namespace Registry

/-- Every handler stands behind a web address, or in for one that is missing. -/
def Web (reg : Registry) : Prop :=
  ∀ h ∈ reg.handlers, (∃ actionType address, h.2 = Webhook.handler actionType address) ∨
    ∃ actionType, h.2 = .unconfigured actionType

theorem Web.register {reg : Registry} (h : reg.Web) (actionType : String) {handler : Handler}
    (hhandler : (∃ actionType address, handler = Webhook.handler actionType address) ∨
      ∃ actionType, handler = .unconfigured actionType) : (reg.register actionType handler).Web := by
  intro f hf
  rcases List.mem_cons.mp hf with rfl | hf
  · exact hhandler
  · exact h f (List.mem_of_mem_filter hf)

/-- What the service starts with. -/
theorem web_registryOf (s : Settings) (network : String → Json → Span × Option Webhook.Reply) :
    (Launch.registryOf s network).Web := by
  have hfold (actionTypes : List String) {reg : Registry} (hreg : reg.Web) :
      (actionTypes.foldl (fun r a => r.register a (Launch.handlerOf s network a)) reg).Web := by
    induction actionTypes generalizing reg with
    | nil => exact hreg
    | cons a rest ih =>
      refine ih (hreg.register a ?_)
      unfold Launch.handlerOf
      split
      · exact .inl ⟨_, _, rfl⟩
      · exact .inr ⟨_, rfl⟩
  exact hfold _ fun h hh => (List.not_mem_nil hh).elim

theorem exists_mem_of_get? {reg : Registry} {actionType : String} {handler : Handler}
    (h : reg.get? actionType = some handler) : ∃ f ∈ reg.handlers, f.2 = handler := by
  obtain ⟨f, hfound, rfl⟩ := Option.map_eq_some_iff.mp h
  exact ⟨f, List.mem_of_find?_eq_some hfound, rfl⟩

/-- Every handler ends like those that come with the service, whenever that may be. -/
def Stock (reg : Registry) : Prop :=
  ∀ h ∈ reg.handlers, ∀ params record, (h.2 params record).ending.BuiltIn

theorem Web.stock {reg : Registry} (h : reg.Web) : reg.Stock := by
  intro f hf params record
  rcases h f hf with ⟨actionType, address, hweb⟩ | ⟨actionType, hmissing⟩
  · rw [hweb]
    exact .answered _
  · rw [hmissing]
    exact .unconfigured actionType params record

theorem coherent_bounded {run : Run} (h : run.ending.BuiltIn) (bound : Span) :
    (bounded bound run).Coherent := by
  unfold bounded
  split
  · cases hending : run.ending with
    | brokeDown => exact Outcome.coherent_failure _
    | finished o =>
      rw [hending] at h
      cases h with
      | answered reply => exact Webhook.coherent_outcome reply
      | unconfigured actionType params record => exact Outcome.coherent_failure _
  · exact Outcome.coherent_failure _

/-- However an action is carried out, with a handler or without, what comes of it has an error just
when it is no success. -/
theorem coherent_execute {reg : Registry} (h : reg.Stock) (actionType : String) (params : Json)
    (record : Snapshot) : (reg.execute actionType params record).Coherent := by
  unfold execute
  cases hget : reg.get? actionType with
  | none => exact Outcome.coherent_failure _
  | some handler =>
    obtain ⟨f, hf, rfl⟩ := exists_mem_of_get? hget
    exact coherent_bounded (h f hf params record) reg.bound

end Registry

end Signoff
