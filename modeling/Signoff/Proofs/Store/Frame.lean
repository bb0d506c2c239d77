import Mathlib
import Signoff.Proofs.Store.FailedWrites
import Signoff.Proofs.Store.Operations

/-!
What no operation of the store touches. Rows of proposals stay where they are and change in the
columns of the decision only, their status along the life of a proposal; the ledger only gets longer;
and policies are apart from proposals and entries.
-/

namespace Signoff.Store

/-- An operation of the store. -/
inductive Command where
  | migrate
  | write (w : Write)
  | record (t : Transition) (e : Audit.Entry)
  | getPolicy (id : Int)
  | listPolicies (enabledOnly : Bool)
  | getProposal (id : Uuid)
  | listProposals (status : Option Status) (limit : Nat)
  | listEntries (f : Audit.Filter)
  | entriesFor (id : Uuid)

namespace Command

/-- How an operation ends, and the store that it leaves. -/
def run (s : Store) : Command → Reply Unit
  | .migrate => s.migrate
  | .write w => w.run s
  | .record t e => (s.transitionWithEntry t e).bare
  | .getPolicy id => ((s.getPolicy id).map fun _ => (), s)
  | .listPolicies enabledOnly => ((s.listPolicies enabledOnly).map fun _ => (), s)
  | .getProposal id => ((s.getProposal id).map fun _ => (), s)
  | .listProposals status limit => ((s.listProposals status limit).map fun _ => (), s)
  | .listEntries f => ((s.listEntries f).map fun _ => (), s)
  | .entriesFor id => ((s.entriesFor id).map fun _ => (), s)

/-- Whether an operation is about policies. -/
def onPolicies : Command → Bool
  | .write (.insertPolicy _ _) | .write (.updatePolicy _ _ _) | .write (.setPolicyEnabled _ _ _)
  | .write (.deletePolicy _) | .getPolicy _ | .listPolicies _ => true
  | _ => false

/-- The store after operations in their order, however each of them ends. -/
def runAll (s : Store) (commands : List Command) : Store :=
  commands.foldl (fun s c => (c.run s).2) s

end Command

/-- One status and the next in the life of a proposal, as cells. -/
def Edge (a b : Cell) : Prop :=
  ∃ source target : Status, source.canBecome target = true ∧ a = .text source.name ∧
    b = .text target.name

/-- A row as it may be later: the same in all columns but those of the decision, and with a status
that is related to the earlier one. -/
structure ProposalRow.Follows (R : Cell → Cell → Prop) (r r' : ProposalRow) : Prop where
  fixed : { r' with status := r.status, decidedAt := r.decidedAt, decidedBy := r.decidedBy
                    error := r.error } = r
  status : R r.status r'.status

/-- A store as it may be later: each row of a proposal in its place as it may be later, and the
ledger continued. -/
structure Grows (R : Cell → Cell → Prop) (s s' : Store) : Prop where
  proposals : ∀ (i : Nat) (r : ProposalRow), s.proposals[i]? = some r →
    ∃ r', s'.proposals[i]? = some r' ∧ r.Follows R r'
  ledger : s.ledger <+: s'.ledger

theorem ProposalRow.Follows.refl {R : Cell → Cell → Prop} (hR : ∀ c, R c c) (r : ProposalRow) :
    r.Follows R r :=
  ⟨rfl, hR _⟩

theorem ProposalRow.Follows.mono {R Q : Cell → Cell → Prop} (hRQ : ∀ a b, R a b → Q a b)
    {r r' : ProposalRow} (h : r.Follows R r') : r.Follows Q r' :=
  ⟨h.fixed, hRQ _ _ h.status⟩

theorem ProposalRow.Follows.trans {R : Cell → Cell → Prop} (hR : ∀ a b c, R a b → R b c → R a c)
    {r r' r'' : ProposalRow} (h : r.Follows R r') (h' : r'.Follows R r'') : r.Follows R r'' := by
  refine ⟨?_, hR _ _ _ h.status h'.status⟩
  -- the later row gives up its decision for that of the middle one, which gives it up in turn
  have hmiddle := h'.fixed
  have hfirst := h.fixed
  rw [← hmiddle] at hfirst
  exact hfirst

theorem Grows.refl {R : Cell → Cell → Prop} (hR : ∀ c, R c c) (s : Store) : Grows R s s :=
  ⟨fun _ r h => ⟨r, h, .refl hR r⟩, List.prefix_rfl⟩

theorem Grows.mono {R Q : Cell → Cell → Prop} (hRQ : ∀ a b, R a b → Q a b) {s s' : Store}
    (h : Grows R s s') : Grows Q s s' := by
  refine ⟨fun i r hi => ?_, h.ledger⟩
  obtain ⟨r', hi', hfollows⟩ := h.proposals i r hi
  exact ⟨r', hi', hfollows.mono hRQ⟩

theorem Grows.trans {R : Cell → Cell → Prop} (hR : ∀ a b c, R a b → R b c → R a c)
    {s s' s'' : Store} (h : Grows R s s') (h' : Grows R s' s'') : Grows R s s'' := by
  refine ⟨fun i r hi => ?_, h.ledger.trans h'.ledger⟩
  obtain ⟨r', hi', hfollows⟩ := h.proposals i r hi
  obtain ⟨r'', hi'', hfollows'⟩ := h'.proposals i r' hi'
  exact ⟨r'', hi'', hfollows.trans hR hfollows'⟩

/-- With the same proposals and the same ledger nothing has to grow. -/
theorem Grows.of_eq {R : Cell → Cell → Prop} (hR : ∀ c, R c c) {s s' : Store}
    (hp : s'.proposals = s.proposals) (hl : s'.ledger = s.ledger) : Grows R s s' := by
  refine ⟨fun i r hi => ⟨r, ?_, .refl hR r⟩, ?_⟩
  · rw [hp]
    exact hi
  · rw [hl]

/-- A change of status leaves a row alone, or moves it along the life of a proposal. -/
theorem follows_after {t : Transition} (he : t.source.canBecome t.target = true)
    (r : ProposalRow) : r.Follows (Relation.ReflGen Edge) (r.after t) := by
  unfold ProposalRow.after
  split
  · next happlies =>
    exact ⟨rfl, .single ⟨t.source, t.target, he, (appliesTo_iff.mp happlies).2, rfl⟩⟩
  · exact .refl (fun _ => .refl) r

theorem grows_changed {s : Store} {t : Transition} (he : t.source.canBecome t.target = true) :
    Grows (Relation.ReflGen Edge) s (s.changed t) := by
  refine ⟨fun i r hi => ⟨r.after t, ?_, follows_after he r⟩, List.prefix_rfl⟩
  rw [changed, List.getElem?_map, hi]
  rfl

theorem readBack_store (r : Reply Bool) (id : Int) : (readBack r id).2 = r.2 := by
  obtain ⟨_ | found, s⟩ := r
  · rfl
  · cases found <;> rfl

namespace Command

/-- An operation on policies changes no proposal and no entry. -/
theorem run_onPolicies {s : Store} {c : Command} (h : c.onPolicies = true) :
    (c.run s).2.proposals = s.proposals ∧ (c.run s).2.ledger = s.ledger := by
  have honly {s' : Store} (h : s.PoliciesOnly s') :
      s'.proposals = s.proposals ∧ s'.ledger = s.ledger := ⟨h.proposals, h.ledger⟩
  cases c with
  | write w =>
    cases w with
    | insertPolicy b now => exact honly (policiesOnly_insertPolicy s b now)
    | updatePolicy id b now =>
      rw [run, Write.run, Reply.bare, updatePolicy, readBack_store]
      exact honly (policiesOnly_changePolicy s _ id _)
    | setPolicyEnabled id enabled now =>
      rw [run, Write.run, Reply.bare, setPolicyEnabled, readBack_store]
      exact honly (policiesOnly_changePolicy s _ id _)
    | deletePolicy id => exact honly (policiesOnly_deletePolicy s id)
    | insertProposal p => cases h
    | transition t => cases h
  | getPolicy id => exact ⟨rfl, rfl⟩
  | listPolicies enabledOnly => exact ⟨rfl, rfl⟩
  | _ => cases h

/-- What an operation that is not on policies does: nothing to the rows, or it adds a proposal, or
it changes a status, or it does so with an entry. -/
theorem run_cases {s : Store} {c : Command} (h : c.onPolicies = false) :
    (∃ schema, (c.run s).2 = { s with schema := schema }) ∨
      (∃ p, (c.run s).2 = { s with proposals := s.proposals ++ [.ofProposal p] }) ∨
      (∃ t : Transition, t.source.canBecome t.target = true ∧ (c.run s).2 = s.changed t) ∨
      ∃ (t : Transition) (e : Audit.Entry), t.source.canBecome t.target = true ∧
        (c.run s).2 = s.changedWith t e := by
  cases c with
  | migrate => exact .inl ⟨_, rfl⟩
  | write w =>
    cases w with
    | insertProposal p =>
      rcases insertProposal_store s p with hs | hs
      · exact .inl ⟨s.schema, hs⟩
      · exact .inr (.inl ⟨p, hs⟩)
    | transition t =>
      rcases transition_cases s t with ⟨hs, -⟩ | ⟨he, hs⟩
      · exact .inl ⟨s.schema, hs⟩
      · exact .inr (.inr (.inl ⟨t, he, hs⟩))
    | _ => cases h
  | record t e =>
    rcases transitionWithEntry_cases s t e with hs | ⟨he, hs⟩
    · exact .inl ⟨s.schema, hs⟩
    · exact .inr (.inr (.inr ⟨t, e, he, hs⟩))
  | getPolicy id => cases h
  | listPolicies enabledOnly => cases h
  | _ => exact .inl ⟨s.schema, rfl⟩

/-- An operation that is not on policies changes no policy. -/
theorem run_not_onPolicies {s : Store} {c : Command} (h : c.onPolicies = false) :
    (c.run s).2.policies = s.policies ∧ (c.run s).2.lastPolicy = s.lastPolicy := by
  obtain ⟨schema, hs⟩ | ⟨p, hs⟩ | ⟨t, -, hs⟩ | ⟨t, e, -, hs⟩ := run_cases (s := s) h <;>
  · rw [hs]
    exact ⟨rfl, rfl⟩

/-- What one operation preserves: rows stay in place, a status stays or moves by one edge, and the
ledger is continued. -/
theorem grows_run (s : Store) (c : Command) : Grows (Relation.ReflGen Edge) s (c.run s).2 := by
  have hstay : ∀ c, Relation.ReflGen Edge c c := fun _ => .refl
  cases h : c.onPolicies with
  | true => exact .of_eq hstay (run_onPolicies h).1 (run_onPolicies h).2
  | false =>
    obtain ⟨schema, hs⟩ | ⟨p, hs⟩ | ⟨t, he, hs⟩ | ⟨t, e, he, hs⟩ := run_cases (s := s) h
    · exact .of_eq hstay (by rw [hs]) (by rw [hs])
    · rw [hs]
      -- a new row goes last, so the others keep their places
      refine ⟨fun i r hi => ⟨r, ?_, .refl hstay r⟩, List.prefix_rfl⟩
      rw [List.getElem?_append_left (List.getElem?_eq_some_iff.mp hi).1, hi]
    · rw [hs]
      exact grows_changed he
    · rw [hs]
      exact ⟨(grows_changed he).proposals, List.prefix_append _ _⟩

/-- What a whole run preserves: rows stay in place, and a status goes along the edges. -/
theorem grows_runAll (s : Store) (commands : List Command) :
    Grows (Relation.ReflTransGen Edge) s (runAll s commands) := by
  induction commands generalizing s with
  | nil => exact .refl (fun _ => .refl) s
  | cons c commands ih =>
    have hstep : Grows (Relation.ReflTransGen Edge) s (c.run s).2 :=
      (grows_run s c).mono fun _ _ => Relation.ReflGen.to_reflTransGen
    exact hstep.trans (fun _ _ _ => Relation.ReflTransGen.trans) (ih (c.run s).2)

end Command

/-- What changes of status keep of a row is kept by one on a store. -/
theorem rows_changed {P : ProposalRow → Prop} (happly : ∀ t r, P r → P (r.apply t)) {s : Store}
    (h : ∀ r ∈ s.proposals, P r) (t : Transition) : ∀ r ∈ (s.changed t).proposals, P r := by
  intro r hr
  obtain ⟨u, hu, rfl⟩ := List.mem_map.mp hr
  unfold ProposalRow.after
  split
  · exact happly t u (h u hu)
  · exact h u hu

/-- What holds of the rows of new proposals and is kept by changes of status is kept by every
operation. -/
theorem Command.rows_run {P : ProposalRow → Prop} (hnew : ∀ p, P (.ofProposal p))
    (happly : ∀ t r, P r → P (r.apply t)) {s : Store} (h : ∀ r ∈ s.proposals, P r) (c : Command) :
    ∀ r ∈ (c.run s).2.proposals, P r := by
  cases hc : c.onPolicies with
  | true =>
    rw [(Command.run_onPolicies hc).1]
    exact h
  | false =>
    obtain ⟨schema, hs⟩ | ⟨p, hs⟩ | ⟨t, -, hs⟩ | ⟨t, e, -, hs⟩ := Command.run_cases (s := s) hc
    · rw [hs]
      exact h
    · rw [hs]
      intro r hr
      rcases List.mem_append.mp hr with hr | hr
      · exact h r hr
      · rw [List.mem_singleton.mp hr]
        exact hnew p
    · rw [hs]
      exact rows_changed happly h t
    · rw [hs]
      exact rows_changed happly h t

/-- Every proposal stands at a status. -/
def Named (s : Store) : Prop := ∀ r ∈ s.proposals, ∃ status : Status, r.status = .text status.name

theorem Named.run {s : Store} (h : s.Named) (c : Command) : (c.run s).2.Named :=
  Command.rows_run (fun p => ⟨p.status, rfl⟩) (fun t _ _ => ⟨t.target, rfl⟩) h c

theorem Named.runAll {s : Store} (h : s.Named) (commands : List Command) :
    (Command.runAll s commands).Named := by
  induction commands generalizing s with
  | nil => exact h
  | cons c commands ih => exact ih (h.run c)

theorem named_empty : empty.Named := fun _ h => nomatch h

theorem eq_of_name {a b : Status} (h : Cell.text a.name = .text b.name) : a = b :=
  name_injective (Cell.text.inj h)

/-- There is no way out of a final status. -/
theorem final_stays {status : Status} (hfinal : status.isFinal = true) {c : Cell}
    (h : Relation.ReflTransGen Edge (.text status.name) c) : c = .text status.name := by
  -- a path that leaves it would begin with an edge out of it
  rcases h.cases_head with heq | ⟨_, ⟨source, target, he, hs, -⟩, -⟩
  · exact heq.symm
  · rw [← eq_of_name hs, Status.canBecome_eq_false_of_isFinal hfinal] at he
    cases he

/-- There is no way back to waiting. -/
theorem pending_before {c : Cell}
    (h : Relation.ReflTransGen Edge c (.text Status.pending.name)) :
    c = .text Status.pending.name := by
  -- a path that gets there would end with an edge into it
  rcases h.cases_tail with heq | ⟨_, -, ⟨source, target, he, -, ht⟩⟩
  · exact heq.symm
  · rw [← eq_of_name ht, Status.not_canBecome_pending] at he
    cases he

/-- In any run from an empty store, with any operations before and after: an operation leaves each
row in its place, with the same columns but for the decision, and its status as it was or one edge
further; it continues the ledger; and it changes no proposal and no entry if it is on policies, and
no policy otherwise. So at any later time the row is still there, still at its status if that is
final, and not waiting again if it was not waiting. -/
theorem runAll_frame (earlier : List Command) (c : Command) (later : List Command) :
    let s := Command.runAll empty earlier
    let s' := (c.run s).2
    let s'' := Command.runAll s' later
    Grows (Relation.ReflGen Edge) s s' ∧
      (if c.onPolicies then s'.proposals = s.proposals ∧ s'.ledger = s.ledger
        else s'.policies = s.policies ∧ s'.lastPolicy = s.lastPolicy) ∧
      s.ledger <+: s''.ledger ∧
      ∀ (i : Nat) (r : ProposalRow), s.proposals[i]? = some r →
        ∃ (status : Status) (r' : ProposalRow), r.status = .text status.name ∧
          s''.proposals[i]? = some r' ∧ r.Follows (Relation.ReflTransGen Edge) r' ∧
          (status.isFinal = true → r'.status = r.status) ∧
          (status ≠ .pending → r'.status ≠ .text Status.pending.name) := by
  intro s s' s''
  -- seen from before the operation, it is the first of the later ones
  have hrun : Grows (Relation.ReflTransGen Edge) s s'' := Command.grows_runAll s (c :: later)
  refine ⟨Command.grows_run s c, ?_, hrun.ledger, ?_⟩
  · split
    · next h => exact Command.run_onPolicies h
    · next h => exact Command.run_not_onPolicies (Bool.eq_false_iff.mpr h)
  · intro i r hi
    obtain ⟨status, hstatus⟩ := named_empty.runAll earlier r (List.mem_of_getElem? hi)
    obtain ⟨r', hi', hfollows⟩ := hrun.proposals i r hi
    have hpath := hfollows.status
    rw [hstatus] at hpath
    refine ⟨status, r', hstatus, hi', hfollows, ?_, ?_⟩
    · intro hfinal
      rw [hstatus]
      exact final_stays hfinal hpath
    · intro hne hpending
      rw [hpending] at hpath
      exact hne (eq_of_name (pending_before hpath))

end Signoff.Store
