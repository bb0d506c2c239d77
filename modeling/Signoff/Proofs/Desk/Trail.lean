import Mathlib
import Signoff.Proofs.Desk.Lifecycle
import Signoff.Proofs.Desk.Rows
import Signoff.Proofs.Execution.Webhook
import Signoff.Proofs.Store.Description
import Signoff.Proofs.Store.ReadBack

/-!
The trail that decisions leave. Each proposal that came to its end has one entry, which says what was
decided, by whom, and what the handler answered; the entries come back from every query, unless one
of those that it picks is nested too deep to be read.
-/

namespace Signoff

open Json

/-- An entry on a proposal whose approval was asked for: the handlers of one step gave the outcome,
and another step wrote it down. -/
structure CarriedOut (start : List Call) (past : List Turn) (p : Proposal) (o : Outcome)
    (e : Audit.Entry) : Prop where
  given : ∃ x ∈ past, o = x.setup.registry.execute p.actionType p.params p.record
  written : ∃ x ∈ past, ∃ reviewer, .review (.approve p.id reviewer) ∈ start ∧
    e = .ofExecution x.moment.fresh p (.ofReviewer reviewer) o x.moment.now
  /-- It is kept as it came. -/
  answer : Webhook.member? (some e.payload) "response" = some (o.response.getD .null)
  legible : Legible e.payload ↔
    Fits (maxLevels - 2) (o.response.getD .null) ∧ Fits (maxLevels - 2) p.params

/-- An entry on a proposal whose rejection was asked for. -/
structure TurnedDown (start : List Call) (past : List Turn) (p : Proposal) (e : Audit.Entry) :
    Prop where
  written : ∃ x ∈ past, ∃ reviewer reason, .review (.reject p.id reviewer reason) ∈ start ∧
    e = .ofRejection x.moment.fresh p (.ofReviewer reviewer) reason x.moment.now
  legible : Legible e.payload

/-- An entry says how a proposal came to its end, when the calls began as `start` and these steps
were made. -/
def Documents (start : List Call) (past : List Turn) (p : Proposal) (e : Audit.Entry) : Prop :=
  (∃ o, CarriedOut start past p o e) ∨ TurnedDown start past p e

/-- What a call under way can rely on: it was asked for, a row describes the proposal that it has,
and the handlers gave the outcome that it has. -/
def Call.Knows (start : List Call) (past : List Turn) (s : Store) : Call → Prop
  | .review (.approve id reviewer) => .review (.approve id reviewer) ∈ start
  | .review (.tellApproved p reviewer) | .review (.carryOut p reviewer) =>
    .review (.approve p.id reviewer) ∈ start ∧ s.Describes p
  | .review (.settle p reviewer o) =>
    .review (.approve p.id reviewer) ∈ start ∧ s.Describes p ∧
      ∃ x ∈ past, o = x.setup.registry.execute p.actionType p.params p.record
  | .review (.reject id reviewer reason) => .review (.reject id reviewer reason) ∈ start
  | .review (.dismiss p reviewer reason) =>
    .review (.reject p.id reviewer reason) ∈ start ∧ s.Describes p
  | _ => True

variable {start : List Call} {past past' : List Turn} {p q : Proposal} {o : Outcome}
  {e : Audit.Entry} {d d' : Desk} {m : Moment} {c : Call} {t : Traffic}

theorem CarriedOut.mono (h : CarriedOut start past p o e) (hsub : past ⊆ past') :
    CarriedOut start past' p o e := by
  obtain ⟨x, hx, hgiven⟩ := h.given
  obtain ⟨y, hy, hwritten⟩ := h.written
  exact ⟨⟨x, hsub hx, hgiven⟩, ⟨y, hsub hy, hwritten⟩, h.answer, h.legible⟩

theorem Documents.mono (h : Documents start past p e) (hsub : past ⊆ past') :
    Documents start past' p e := by
  rcases h with ⟨o, hcarried⟩ | hturned
  · exact .inl ⟨o, hcarried.mono hsub⟩
  · obtain ⟨x, hx, hwritten⟩ := hturned.written
    exact .inr ⟨⟨x, hsub hx, hwritten⟩, hturned.legible⟩

/-- What an entry says of a proposal it says of everything that the same row describes. -/
theorem Documents.congr {r : Store.ProposalRow} (h : Documents start past p e)
    (hp : r.Describes p) (hq : r.Describes q) : Documents start past q e := by
  rw [hp.eq hq]
  rcases h with ⟨o, hgiven, hwritten, hanswer, hlegible⟩ | ⟨hwritten, hlegible⟩
  · exact .inl ⟨o, hgiven, hwritten, hanswer, hlegible⟩
  · exact .inr ⟨hwritten, hlegible⟩

theorem Documents.proposalId (h : Documents start past p e) : e.proposalId = some p.id := by
  rcases h with ⟨o, hcarried⟩ | hturned
  · obtain ⟨x, -, reviewer, -, rfl⟩ := hcarried.written
    rfl
  · obtain ⟨x, -, reviewer, reason, -, rfl⟩ := hturned.written
    rfl

theorem Call.Knows.mono {s s' : Store} (h : c.Knows start past s) (hsub : past ⊆ past')
    (hs : ∀ p, s.Describes p → s'.Describes p) : c.Knows start past' s' := by
  rcases c with r | i | a | q | q
  · cases r with
    | approve id reviewer => exact h
    | tellApproved p reviewer => exact ⟨h.1, hs p h.2⟩
    | carryOut p reviewer => exact ⟨h.1, hs p h.2⟩
    | settle p reviewer o =>
      obtain ⟨hcall, hdescribes, x, hx, ho⟩ := h
      exact ⟨hcall, hs p hdescribes, x, hsub hx, ho⟩
    | reject id reviewer reason => exact h
    | dismiss p reviewer reason => exact ⟨h.1, hs p h.2⟩
    | _ => trivial
  all_goals trivial

/-! One step. -/

/-- To proposals and entries a step of a call is one operation of the store at most. -/
theorem command_effect (h : Desk.Effect m d c d') :
    ∃ command : Store.Command, d'.store.proposals = (command.run d.store).2.proposals ∧
      d'.store.ledger = (command.run d.store).2.ledger := by
  cases h with
  | quiet _ _ _ h => exact ⟨.listPolicies true, h.proposals, h.ledger⟩
  | added p _ _ => exact ⟨.write (.insertProposal p), rfl, rfl⟩
  | moved id _ _ _ _ h =>
    cases h with
    | changed t _ => exact ⟨.write (.transition t), rfl, rfl⟩
    | recorded t e _ _ _ => exact ⟨.record t e, rfl, rfl⟩
    | handedOut p _ => exact ⟨.listPolicies true, rfl, rfl⟩

theorem describes_effect (h : Desk.Effect m d c d') (hp : d.store.Describes p) :
    d'.store.Describes p := by
  obtain ⟨command, hproposals, -⟩ := command_effect h
  have hrun := (Store.Command.grows_run d.store command).describes hp
  rwa [Store.Describes, ← hproposals] at hrun

theorem rounded_effect (h : Desk.Effect m d c d') (hr : d.store.Rounded) : d'.store.Rounded := by
  obtain ⟨command, hproposals, -⟩ := command_effect h
  rw [Store.Rounded, hproposals]
  exact Store.Command.rows_run (fun p => ⟨p.confidence, rfl⟩) (fun _ _ h => h) hr command

/-- A claim is made on a row that describes what is claimed. -/
theorem describes_of_claimed {id : Uuid} {reviewer : Option String} {s : Store}
    (hr : d.store.Ready)
    (h : d.store.transition (Review.claim id reviewer m.now) = (.ok (some p), s)) :
    p.id = id ∧ s.Describes p := by
  obtain ⟨-, -, ⟨r, hrow, hstatus, hread⟩, rfl⟩ := Store.transition_some hr.toKeyed h
  obtain ⟨hmem, hisOf⟩ := Store.row_changed hrow hstatus
  have hreads := Store.read_ok.mp hread
  exact ⟨hreads.id_eq hisOf, _, hmem, hreads.describes hisOf⟩

theorem knows_review {r : Review} (hr : d.store.Ready) (x : Turn)
    (h : (Call.review r).Knows start past d.store) :
    (Call.review (r.step x.setup.registry x.moment d).1).Knows start (past ++ [x])
      (r.step x.setup.registry x.moment d).2.store := by
  have hleads := leads_step (m := x.moment) x.setup.registry hr r
  have hsub : past ⊆ past ++ [x] := List.subset_append_left past [x]
  cases r with
  | approve id reviewer =>
    simp only [Review.step]
    split
    · trivial
    · trivial
    · next p d' ht =>
      obtain ⟨rfl, hdescribes⟩ := describes_of_claimed hr (Desk.of_on ht)
      exact ⟨h, hdescribes⟩
  | tellApproved p reviewer => exact h
  | carryOut p reviewer =>
    -- the outcome is given at this step
    exact ⟨h.1, h.2, x, by simp, rfl⟩
  | reject id reviewer reason =>
    simp only [Review.step]
    split
    · trivial
    · next p hp =>
      split
      · obtain ⟨rfl, row, hrow, hreads⟩ := id_of_found hr hp
        obtain ⟨hmem, hisOf⟩ := Store.mem_of_rowOf hrow
        exact ⟨h, row, hmem, hreads.describes hisOf⟩
      · trivial
  | _ =>
    -- what the others lead to has nothing to rely on
    generalize (Review.step x.setup.registry x.moment d _).1 = r' at *
    cases hleads <;> trivial

/-- A step adds to the ledger nothing but an entry that documents a proposal. -/
theorem ledger_step (hr : d.store.Ready) (x : Turn) (h : c.Knows start past d.store) :
    (c.step x.setup x.moment d).2.store.ledger = d.store.ledger ∨
      ∃ e p, d.store.Describes p ∧ Documents start (past ++ [x]) p e ∧
        (c.step x.setup x.moment d).2.store.ledger = d.store.ledger ++ [.ofEntry e] := by
  have hx : x ∈ past ++ [x] := by simp
  rcases ledger_cases x.setup hr c with hsame | ⟨t, e, ht, he, -, hstore⟩
  · exact .inl hsame
  · right
    have hledger : (c.step x.setup x.moment d).2.store.ledger = d.store.ledger ++ [.ofEntry e] := by
      rw [hstore]
      rfl
    -- of the calls those that end a proposal write an entry
    cases Call.tries_of_eq ht with
    | claim id reviewer => cases he
    | ending p reviewer o =>
      cases he
      obtain ⟨hcall, hdescribes, y, hy, ho⟩ := h
      refine ⟨_, p, hdescribes, .inl ⟨o, ?_⟩, hledger⟩
      exact ⟨⟨y, List.mem_append_left _ hy, ho⟩, ⟨x, hx, reviewer, hcall, rfl⟩,
        Audit.Entry.response_ofExecution, Audit.Entry.fits_ofExecution⟩
    | rejection p reviewer reason =>
      cases he
      obtain ⟨hcall, hdescribes⟩ := h
      refine ⟨_, p, hdescribes, .inr ?_, hledger⟩
      exact ⟨⟨x, hx, reviewer, reason, hcall, rfl⟩, Audit.Entry.legible_ofRejection⟩

/-! A whole run. -/

/-- What every step keeps: the calls know what they decide on, and all that stands in the ledger
documents proposals. -/
structure Chronicle (start : List Call) (past : List Turn) (t : Traffic) : Prop where
  ready : t.desk.store.Ready
  rounded : t.desk.store.Rounded
  knows : ∀ c ∈ t.calls, c.Knows start past t.desk.store
  ledger : ∃ entries : List Audit.Entry, t.desk.store.ledger = entries.map .ofEntry ∧
    ∀ e ∈ entries, ∃ p, t.desk.store.Describes p ∧ Documents start past p e

theorem chronicle_start {calls : List Call} (hstart : ∀ c ∈ calls, c.isStart = true) :
    Chronicle calls [] ⟨.empty, calls⟩ := by
  refine ⟨Store.ready_empty, fun r hr => (List.not_mem_nil hr).elim, fun c hc => ?_, [], rfl, ?_⟩
  · have hbegins := hstart c hc
    rcases c with r | i | a | q | q
    · cases r with
      | approve id reviewer => exact hc
      | reject id reviewer reason => exact hc
      | retry id => trivial
      | _ => cases hbegins
    all_goals trivial
  · simp

theorem chronicle_step (h : Chronicle start past t) (x : Turn) :
    Chronicle start (past ++ [x]) (t.step x) := by
  have hsub : past ⊆ past ++ [x] := List.subset_append_left past [x]
  obtain ⟨entries, hledger, hentries⟩ := h.ledger
  cases hc : t.calls[x.who]? with
  | none =>
    -- there is no such call: only the past gets longer
    rw [step_of_none hc]
    refine ⟨h.ready, h.rounded, fun c hmem => (h.knows c hmem).mono hsub fun _ => id, entries,
      hledger, fun e he => ?_⟩
    obtain ⟨p, hp, hdocuments⟩ := hentries e he
    exact ⟨p, hp, hdocuments.mono hsub⟩
  | some c =>
    have hknows := h.knows c (List.mem_of_getElem? hc)
    have heffect : Desk.Effect x.moment t.desk c (c.step x.setup x.moment t.desk).2 :=
      effect_step x.setup c
    have hready := h.ready.step x
    rw [step_of_get hc] at hready ⊢
    refine ⟨hready, rounded_effect heffect h.rounded, fun u hu => ?_, ?_⟩
    · -- the others know what they knew, and the one that made the step what it found out
      rcases List.mem_or_eq_of_mem_set hu with hu | rfl
      · exact (h.knows u hu).mono hsub fun _ => describes_effect heffect
      · rcases c with r | i | a | q | q
        · exact knows_review h.ready x hknows
        all_goals trivial
    · have hkept (e : Audit.Entry) (he : e ∈ entries) :
          ∃ p, (c.step x.setup x.moment t.desk).2.store.Describes p ∧
            Documents start (past ++ [x]) p e := by
        obtain ⟨p, hp, hdocuments⟩ := hentries e he
        exact ⟨p, describes_effect heffect hp, hdocuments.mono hsub⟩
      rcases ledger_step h.ready x hknows with hsame | ⟨e, p, hp, hdocuments, hadded⟩
      · exact ⟨entries, hsame.trans hledger, hkept⟩
      · refine ⟨entries ++ [e], ?_, fun f hf => ?_⟩
        · rw [hadded, hledger, List.map_append, List.map_singleton]
        · rcases List.mem_append.mp hf with hf | hf
          · exact hkept f hf
          · rw [List.mem_singleton.mp hf]
            exact ⟨p, describes_effect heffect hp, hdocuments⟩

/-- A handler behind an address that always answers with this text, for use in examples. -/
def answering (body : String) : Handler :=
  Webhook.handler "archive" fun _ => (⟨0⟩, some ⟨200, body⟩)

/-- The sample day with a handler for the action, for use in examples. -/
def dayWith (h : Handler) : List Turn :=
  sampleDay.map fun x =>
    { x with setup := ⟨(Registry.empty Registry.defaultBound).register "archive" h, x.setup.floor⟩ }

def eveningWith (h : Handler) : Traffic := (⟨.empty, sampleApproval⟩ : Traffic).run (dayWith h)

theorem web_dayWith (body : String) : ∀ x ∈ dayWith (answering body), x.setup.registry.Web := by
  intro x hx
  obtain ⟨y, -, rfl⟩ := List.mem_map.mp hx
  have hnone : (Registry.empty Registry.defaultBound).Web := fun h hh => (List.not_mem_nil hh).elim
  exact hnone.register "archive" (.inl ⟨"archive", _, rfl⟩)

end Signoff
