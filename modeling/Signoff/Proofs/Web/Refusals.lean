import Mathlib
import Signoff.Proofs.Desk.Orderly
import Signoff.Proofs.Desk.Reachable
import Signoff.Proofs.Web.Asking
import Signoff.Web.Service

/-!
Refusals. A request that is refused leaves the desk as it found it: nothing is written, nobody is
told anything and no action is handed out. Each call does all its refusing before it has done
anything, since nothing that it needs afterwards can be missing on a desk in order.
-/

namespace Signoff

open Store

/-- Whether a call ended with an error. -/
def Call.isRefused : Call → Bool
  | .review (.done (.error _)) | .intake (.done (.error _)) | .authoring (.done (.error _))
  | .dryRunDone (.error _) => true
  | _ => false

namespace Call

variable {su : Setup} {moments : Nat → Moment} {first : Nat} {d : Desk}

/-- The rest of a run once a step has ended the call. -/
theorem runFor_of_step {n : Nat} {c c' : Call} {d' : Desk}
    (hstep : c.step su (moments first) d = (c', d')) (hdone : c'.isDone = true) :
    runFor su moments (n + 1) first c d = (c', d') := by
  rw [runFor_succ, hstep]
  exact runFor_of_isDone su moments n (first + 1) d' hdone

section Decisions

variable (su : Setup) (first : Nat) {id : Uuid} {entries : List EntryRow} {handed : Nat}
  (hclock : ∀ n, (moments n).now.Sortable) (hfresh : ∀ n, d.store.Unused (moments n).fresh)

include hclock hfresh

/-- The proposal is claimed, its action is carried out, and how it went is written down. -/
theorem run_approve_pending (reviewer : Option String) (hr : d.store.Ready)
    (h : (d.file id).Shows id .pending entries handed) :
    ∃ p d', run su moments first (.review (.approve id reviewer)) d =
      (.review (.done (.ok p)), d') := by
  obtain ⟨p, claimed, hclaim, hp, hshows⟩ :=
    approve_step_pending su.registry reviewer hr h (hclock first)
  have hdesk : claimed = (d.on (·.transition (Review.claim id reviewer (moments first).now))).2 := by
    rw [← approve_desk su.registry id reviewer, hclaim]
  have hready : claimed.store.Ready := by
    rw [hdesk]
    exact hr.transition (Review.claim id reviewer (moments first).now)
  have hunused : claimed.store.Unused (moments (first + 1 + 1 + 1)).fresh := by
    refine (hfresh _).of_ledger ?_
    rw [hdesk]
    rcases transition_cases d.store (Review.claim id reviewer (moments first).now) with ⟨hs, -⟩ | ⟨-, hs⟩
    · simp only [Desk.on, hs]
    · simp only [Desk.on, hs, changed_ledger]
  -- telling and handing out change nothing of what the last step needs
  let o := su.registry.execute p.actionType p.params p.record
  let handedOut := (claimed.tell (.statusChanged p.id .approved none)).dispatch p
  have hhanded : (handedOut.file id).Shows id .approved entries (handedOut.dispatchesOf id) :=
    ⟨hshows.row, hshows.entries, rfl⟩
  obtain ⟨e, settled, hsettle, -, -⟩ := settle_step (m := moments (first + 1 + 1 + 1)) su.registry
    reviewer (o := o) (d := handedOut) hready hhanded hp hunused
  refine ⟨{ p with status := Review.statusOf o, error := o.error },
    settled.tell (.statusChanged p.id (Review.statusOf o) o.error), ?_⟩
  -- claimed, told, handed out, settled and told again
  change runFor su moments (1 + 1 + 1 + 1 + 1) first _ d = _
  rw [runFor_succ, step_review hclaim, runFor_succ, runFor_succ]
  change runFor su moments (1 + 1) (first + 1 + 1 + 1) (.review (.settle p reviewer o)) handedOut = _
  rw [runFor_succ, step_review hsettle]
  rfl

/-- The proposal is rejected, which is written down, and found as it is then. -/
theorem run_reject_pending (reviewer reason : Option String) (hr : d.store.Ready)
    (h : (d.file id).Shows id .pending entries handed) :
    ∃ p d', run su moments first (.review (.reject id reviewer reason)) d =
      (.review (.done (.ok p)), d') := by
  obtain ⟨p, hlook, hp⟩ :=
    reject_step_pending (m := moments first) su.registry reviewer reason hr h
  obtain ⟨e, dismissed, hdismiss, -, hshows⟩ := dismiss_step_pending (m := moments (first + 1))
    su.registry reviewer reason hr h hp (hclock _) (hfresh _)
  have hready : dismissed.store.Ready := by
    have heffect := effect_step (m := moments (first + 1)) (d := d) su
      (.review (.dismiss p reviewer reason))
    rw [step_review hdismiss] at heffect
    exact ready_effect hr heffect
  obtain ⟨q, hreread, -, -⟩ := reread_step (m := moments (first + 1 + 1 + 1)) su.registry
    (d := dismissed.tell (.statusChanged id .rejected none)) hready hshows
  refine ⟨q, dismissed.tell (.statusChanged id .rejected none), ?_⟩
  change runFor su moments (1 + 1 + 1 + 1) first _ d = _
  rw [runFor_succ, step_review hlook, runFor_succ, step_review hdismiss, runFor_succ]
  exact runFor_of_step (step_review hreread) rfl

/-- An approval that does not get the proposal learns where it stands. -/
theorem refused_approve (h : d.Orderly) (reviewer : Option String)
    (hrefused : (run su moments first (.review (.approve id reviewer)) d).1.isRefused = true) :
    (run su moments first (.review (.approve id reviewer)) d).2 = d := by
  have hlost (hstep : Review.step su.registry (moments first) d (.approve id reviewer) =
      (.refuse id .approved, d)) :
      (run su moments first (.review (.approve id reviewer)) d).2 = d := by
    have hrefuse : Call.step su (moments (first + 1)) d (.review (.refuse id .approved)) =
        (.review (.done (.error (Review.refusal d.store id .approved))), d) := rfl
    change (runFor su moments (3 + 1 + 1) first _ d).2 = d
    rw [runFor_succ, step_review hstep, runFor_of_step hrefuse rfl]
  rcases h.standing id with hrow | ⟨status, entries, handed, hshows⟩
  · exact hlost (approve_step_absent su.registry reviewer h.ready hrow)
  · by_cases hpending : status = .pending
    · subst hpending
      obtain ⟨p, d', hrun⟩ :=
        run_approve_pending su first hclock hfresh reviewer h.ready hshows
      rw [hrun] at hrefused
      cases hrefused
    · exact hlost (approve_step_decided su.registry reviewer h.ready hshows hpending)

/-- A rejection looks first, and only what is pending goes on from there. -/
theorem refused_reject (h : d.Orderly) (reviewer reason : Option String)
    (hrefused : (run su moments first (.review (.reject id reviewer reason)) d).1.isRefused = true) :
    (run su moments first (.review (.reject id reviewer reason)) d).2 = d := by
  have hlost (e : Review.Error)
      (hstep : Review.step su.registry (moments first) d (.reject id reviewer reason) =
        (.done (.error e), d)) :
      (run su moments first (.review (.reject id reviewer reason)) d).2 = d := by
    change (runFor su moments (3 + 1) first _ d).2 = d
    rw [runFor_of_step (step_review hstep) rfl]
  rcases h.standing id with hrow | ⟨status, entries, handed, hshows⟩
  · exact hlost (.notFound id) (reject_step_absent su.registry reviewer reason h.ready hrow)
  · by_cases hpending : status = .pending
    · subst hpending
      obtain ⟨p, d', hrun⟩ :=
        run_reject_pending su first hclock hfresh reviewer reason h.ready hshows
      rw [hrun] at hrefused
      cases hrefused
    · exact hlost (.conflict id status .rejected)
        (reject_step_decided su.registry reviewer reason h.ready hshows hpending)

end Decisions

/-- Trying again looks first, too, and the new proposal is added or it is not. -/
theorem refused_retry (id : Uuid) (hr : d.store.Ready)
    (hrefused : (run su moments first (.review (.retry id)) d).1.isRefused = true) :
    (run su moments first (.review (.retry id)) d).2 = d := by
  change (runFor su moments (1 + 1 + 1) first _ d).1.isRefused = true at hrefused
  change (runFor su moments (1 + 1 + 1) first _ d).2 = d
  have hstop (e : Review.Error)
      (hstep : Review.step su.registry (moments first) d (.retry id) = (.done (.error e), d)) :
      (runFor su moments (1 + 1 + 1) first (.review (.retry id)) d).2 = d := by
    rw [runFor_of_step (step_review hstep) rfl]
  cases hfound : Review.found d.store id with
  | error e => exact hstop e (by simp only [Review.step, hfound])
  | ok p =>
    by_cases hfailed : p.status = .failed
    · have hstep : Review.step su.registry (moments first) d (.retry id) =
          (.renew (p.retried (moments first).fresh (moments first).now), d) := by
        simp only [Review.step, hfound, hfailed, if_true]
      rw [runFor_succ, step_review hstep] at hrefused ⊢
      -- what has been looked at can only be refused by the insertion
      rcases Store.insertProposal_cases hr (p.retried (moments first).fresh (moments first).now)
        with hinsert | hinsert
      · have hrenew : Review.step su.registry (moments (first + 1)) d
            (.renew (p.retried (moments first).fresh (moments first).now)) =
            (.done (.error (.duplicate p.recordId)), d) := by
          simp only [Review.step, Desk.on, hinsert]
          rfl
        rw [runFor_of_step (step_review hrenew) rfl]
      · -- once the new proposal is added the call is not refused any more
        rw [runFor_succ, runFor_succ] at hrefused
        simp only [Call.step, Review.step, Desk.on, hinsert] at hrefused
        cases hrefused
    · exact hstop (.conflict id p.status .pending)
        (by simp only [Review.step, hfound, hfailed, if_false])

/-- A batch is never refused. -/
theorem intake_runFor (su : Setup) (moments : Nat → Moment) (n first : Nat) {i : Intake}
    (hr : d.store.Ready) (htable : d.store.schema.has .policies = true)
    (hi : (Call.intake i).isRefused = false) :
    (runFor su moments n first (.intake i) d).1.isRefused = false := by
  induction n generalizing first i d with
  | zero => exact hi
  | succ n ih =>
    have heffect := effect_step (m := moments first) (d := d) su (.intake i)
    have hready := ready_effect hr heffect
    have hschema := schema_effect hr heffect
    rw [runFor_succ]
    refine ih (first + 1) hready (hschema ▸ htable) ?_
    -- neither the list of policies nor a new proposal can fail
    cases i with
    | batch records =>
      simp only [listPolicies_eq htable]
      rfl
    | place decisions now r =>
      cases decisions with
      | nil => rfl
      | cons x rest =>
        cases hfound : x.found with
        | none =>
          simp only [hfound]
          rfl
        | some f =>
          rcases Store.insertProposal_cases hr (.ofMatch (moments first).fresh f now) with
            hinsert | hinsert <;>
          · simp only [hfound, Desk.on, hinsert]
            rfl
    | tellProposed p decisions now r => rfl
    | done r => exact hi

/-- Moments counted from a given place. -/
theorem runFor_shift (n k : Nat) (c : Call) :
    runFor su (fun j => moments (first + j)) n k c d = runFor su moments n (first + k) c d := by
  induction n generalizing k c d with
  | zero => rfl
  | succ n ih =>
    rw [runFor_succ, runFor_succ]
    exact ih (k + 1) _

theorem refused_of_isRefused {c : Call} {answer : Dealing.Answer}
    (h : Dealing.Answer.ofCall? c = some answer) (hc : c.isRefused = true) :
    ∃ e, answer = .refused e := by
  unfold Dealing.Answer.ofCall? at h
  split at h
  · next r =>
    cases r with
    | error e => exact ⟨e, (Option.some.inj h).symm⟩
    | ok p => cases hc
  · cases hc
  · cases h

/-- A change of a policy that is refused is none: the book has it so. -/
theorem refused_authoring {a : Authoring} (h : d.Orderly) (hc : (Call.authoring a).Brought)
    (hclock : ∀ n, (moments n).now.Sortable)
    (hrefused : (run su moments first (.authoring a) d).1.isRefused = true) :
    (run su moments first (.authoring a) d).2 = d := by
  obtain ⟨b, hb⟩ := h.book
  have hrun : run su moments first (.authoring a) d =
      run su (fun j => moments (first + j)) 0 (.authoring a) d :=
    (runFor_shift (Call.authoring a).left 0 _).symm
  have hsettled (x : Dealing) (hx : x.perform su (fun j => moments (first + j)) d =
      Dealing.call su (fun j => moments (first + j)) d a)
      (hdraft : ∀ draft, x.draft? = some draft → draft.Legible) :
      (run su moments first (.authoring a) d).2 = d := by
    have hsettles : b.Settles (fun j => moments (first + j)) x d
        (x.perform su (fun j => moments (first + j)) d) :=
      Dealing.settles_perform hb (fun j => hclock (first + j)) x hdraft
    have hcall : Dealing.call su (fun j => moments (first + j)) d a =
        (Dealing.Answer.ofCall? (run su moments first (.authoring a) d).1,
          (run su moments first (.authoring a) d).2) := by
      rw [hrun]
      rfl
    rw [hx, hcall] at hsettles
    obtain ⟨answer, hanswer, -, hkept⟩ := hsettles.answered
    obtain ⟨e, he⟩ := refused_of_isRefused hanswer hrefused
    exact (hkept e he).2
  -- each call that can be brought is one dealing with the book
  cases a with
  | create draft => exact hsettled (.create draft) rfl hc.draft
  | update id draft => exact hsettled (.update id draft) rfl hc.draft
  | setEnabled id enabled => exact hsettled (.setEnabled id enabled) rfl (by rintro _ ⟨⟩)
  | delete id => exact hsettled (.delete id) rfl (by rintro _ ⟨⟩)
  | _ => cases hc.start

/-- What a call that is refused does to a desk in order: nothing. -/
theorem refused_run {c : Call} (h : d.Orderly) (hc : c.Brought)
    (hclock : ∀ n, (moments n).now.Sortable) (hfresh : ∀ n, d.store.Unused (moments n).fresh)
    (hrefused : (c.run su moments first d).1.isRefused = true) :
    (c.run su moments first d).2 = d := by
  cases c with
  | review r =>
    cases r with
    | approve id reviewer => exact refused_approve su first hclock hfresh h reviewer hrefused
    | reject id reviewer reason =>
      exact refused_reject su first hclock hfresh h reviewer reason hrefused
    | retry id => exact refused_retry id h.ready hrefused
    | _ => cases hc.start
  | intake i =>
    -- a batch is never refused once the table of policies is there
    have hnot : (Call.intake i).isRefused = false := by
      cases i with
      | done r => cases hc.start
      | _ => rfl
    obtain ⟨b, hb⟩ := h.book
    have hrun : (run su moments first (.intake i) d).1.isRefused = false :=
      intake_runFor su moments i.left first h.ready hb.table hnot
    rw [hrun] at hrefused
    cases hrefused
  | authoring a => exact refused_authoring h hc hclock hrefused
  | dryRun request => rfl
  | dryRunDone r => rfl

end Call

namespace Web

/-- A desk as it is served: calls were made by requests, or with messages at the feed, on a desk that
was empty, and took their steps in any order. -/
def Served (d : Desk) : Prop :=
  ∃ (calls : List Call) (turns : List Turn),
    (∀ c ∈ calls, (∃ r isNew, Ask.ofRequest r = .ok (.make c isNew)) ∨
      ∃ m : Feed.Message, c = .review m.review) ∧
    Ordinary .empty turns ∧ d = ((⟨.empty, calls⟩ : Traffic).run turns).desk

theorem brought_ofRequest {r : Request} {c : Call} {isNew : Bool}
    (h : Ask.ofRequest r = .ok (.make c isNew)) : c.Brought := by
  obtain ⟨route, -, hasks⟩ := Ask.asksFor_ofRequest h
  cases hasks with
  | make _ _ hc _ _ => exact hc

theorem Served.brought {d : Desk} (h : Served d) :
    ∃ (calls : List Call) (turns : List Turn), (∀ c ∈ calls, c.Brought) ∧
      Ordinary .empty turns ∧ d = ((⟨.empty, calls⟩ : Traffic).run turns).desk := by
  obtain ⟨calls, turns, hcalls, ho, hd⟩ := h
  refine ⟨calls, turns, ?_, ho, hd⟩
  intro c hc
  rcases hcalls c hc with ⟨r, isNew, hr⟩ | ⟨m, rfl⟩
  · exact brought_ofRequest hr
  · exact m.brought

theorem Served.orderly {d : Desk} (h : Served d) : d.Orderly := by
  obtain ⟨calls, turns, hbrought, ho, rfl⟩ := h.brought
  exact orderly_run hbrought ho.clock

/-- A response that tells of a success refuses nothing. -/
theorem error_of_isRefusal {ε α : Type} {failure : ε → Response} {isNew : Bool} {f : α → Json}
    {r : Except ε α}
    (h : (Response.ofResult failure (fun a => Response.ofCall.told isNew (f a)) r).isRefusal = true) :
    ∃ e, r = .error e := by
  cases r with
  | error e => exact ⟨e, rfl⟩
  | ok a => cases isNew <;> cases h

/-- A response refuses only what the call refused. -/
theorem isRefused_of_isRefusal {c : Call} {isNew : Bool}
    (h : (Response.ofCall isNew c).isRefusal = true) : c.isRefused = true := by
  unfold Response.ofCall at h
  split at h
  · obtain ⟨e, rfl⟩ := error_of_isRefusal h
    rfl
  · obtain ⟨e, rfl⟩ := error_of_isRefusal h
    rfl
  · obtain ⟨e, rfl⟩ := error_of_isRefusal h
    rfl
  · obtain ⟨e, rfl⟩ := error_of_isRefusal h
    rfl
  · cases h

/-- On any desk that is served, a request changes nothing when it is refused, when it gets something,
or when it asks for a dry run: the store is the same, nobody was told anything, and no action was
handed out. -/
theorem refused_changes_nothing {d : Desk} (hd : Served d) (su : Setup) {moments : Nat → Moment}
    (hclock : ∀ n, (moments n).now.Sortable) (hfresh : ∀ n, d.store.Unused (moments n).fresh)
    (first : Nat) (r : Request)
    (h : (respond su moments first d r).1.isRefusal = true ∨
      r.method = .get ∧ r.path ≠ ["ws"] ∨ r.method = .post ∧ r.path = ["api", "simulate"]) :
    (respond su moments first d r).2 = d := by
  by_cases hoptions : r.method = .options
  · rw [respond, if_pos hoptions]
  rw [respond, if_neg hoptions] at h ⊢
  cases hask : Ask.ofRequest r with
  | error response => rfl
  | ok a =>
    obtain ⟨route, hroute, hasks⟩ := Ask.asksFor_ofRequest hask
    rw [hask] at h
    cases hasks with
    | look q => rfl
    | make c isNew hc hget hdry =>
      rcases h with hrefused | ⟨hmethod, -⟩ | ⟨-, hpath⟩
      · -- a response keeps its status when it loses its body
        have hcall : (Response.ofCall isNew (c.run su moments first d).1).isRefusal = true := by
          dsimp only [serve] at hrefused
          split_ifs at hrefused <;> exact hrefused
        exact Call.refused_run hd.orderly hc hclock hfresh (isRefused_of_isRefusal hcall)
      · exact absurd hmethod hget
      · rw [hpath] at hroute
        obtain ⟨request, rfl⟩ := hdry (Option.some.inj hroute).symm
        rfl

/-- The call that a request asks for, if it asks for one. -/
def Request.call? (r : Request) : Option Call :=
  match Ask.ofRequest r with
  | .ok (.make c _) => some c
  | _ => none

theorem Request.call?_eq_some {r : Request} {c : Call} (h : r.call? = some c) :
    ∃ isNew, Ask.ofRequest r = .ok (.make c isNew) := by
  unfold Request.call? at h
  split at h
  · next c' isNew hask =>
    cases h
    exact ⟨isNew, hask⟩
  · cases h

/-- A policy that is posted, for use in examples. -/
def sampleRequest : Request :=
  .ofTarget .post "/api/policies" (some "application/json")
    "\x7b\"condition\":\x7b\"all\":[]\x7d,\"action\":\"archive\",\"confidence\":1\x7d"

def sampleDesk : Desk :=
  ((⟨.empty, sampleRequest.call?.toList⟩ : Traffic).run [sampleTurn 0 0]).desk

theorem refused_changes_nothing_sample :
    let r : Request := .ofTarget .delete "/api/policies/2" none ""
    let after := respond (sampleTurn 0 0).setup (fun n => (sampleTurn 0 n).moment) 1 sampleDesk r
    sampleDesk.store.policies.map (·.id) = [1] ∧ after.1.status = 404 ∧ after.2 = sampleDesk := by
  intro r after
  have hserved : Served sampleDesk := by
    refine ⟨_, _, ?_, ?_, rfl⟩
    · intro c hc
      obtain ⟨isNew, hask⟩ := Request.call?_eq_some (Option.mem_toList.mp hc)
      exact .inl ⟨_, isNew, hask⟩
    · refine ⟨?_, by decide +kernel, by simp [Store.Unused, Store.empty]⟩
      intro x hx
      rw [List.mem_singleton.mp hx]
      exact sortable_sampleTurn 0 0
  have hledger : sampleDesk.store.ledger = [] := by decide +kernel
  have hstatus : after.1.status = 404 := by decide +kernel
  refine ⟨by decide +kernel, hstatus, ?_⟩
  refine refused_changes_nothing hserved _ (fun n => sortable_sampleTurn 0 n) ?_ 1 r (.inl ?_)
  · intro n
    simp [Store.Unused, hledger]
  · exact decide_eq_true (hstatus ▸ (by decide : 400 ≤ 404))

end Web
end Signoff
