import Mathlib
import Signoff.Proofs.Desk.Effect
import Signoff.Proofs.Desk.Succession
import Signoff.Proofs.Store.PendingUniqueness

/-!
Who says that a proposal is new. Batches and retries add proposals while other calls go on, and each
proposal that is in the store was added by one call, which reports it once.
-/

namespace Signoff

namespace Call

/-- Whether a call has not begun. -/
def isStart : Call → Bool
  | .review (.approve _ _) | .review (.reject _ _ _) | .review (.retry _) | .intake (.batch _)
  | .authoring (.create _) | .authoring (.update _ _) | .authoring (.setEnabled _ _)
  | .authoring (.delete _) | .dryRun _ => true
  | _ => false

/-- What a call that began as `start` has added; once it has ended, this is what it answered. -/
def reports : (start now : Call) → List Uuid
  | .review (.retry _), .review (.tellRenewed p) => [p.id]
  | .review (.retry _), .review (.done (.ok p)) => [p.id]
  | .intake _, .intake (.place _ _ r) => r.created.map (·.id)
  | .intake _, .intake (.tellProposed p _ _ r) => r.created.map (·.id) ++ [p.id]
  | .intake _, .intake (.done (.ok r)) => r.created.map (·.id)
  | _, _ => []

/-- Whether a call is a batch or tries a proposal again, so that it may come to add one. -/
def mayAdd : Call → Bool
  | .review (.retry _) | .review (.renew _) | .review (.tellRenewed _) | .intake _ => true
  | _ => false

/-- Whether a call that began as `start` can have come to `now`. -/
def Follows (start now : Call) : Prop :=
  match start with
  | .review (.retry _) =>
    match now with
    | .review (.retry _) | .review (.renew _) | .review (.tellRenewed _) | .review (.done _) => True
    | _ => False
  | .intake _ => ∃ i, now = .intake i
  | _ => now.mayAdd = false

end Call

/-- Each identifier was reported once by one call, and nothing else was reported. -/
structure Tally (ids : List Store.Cell) (reports : Nat → List Uuid) : Prop where
  once : ∀ id ∈ ids, ∃ u i, id = .text u.text ∧ (reports i).count u = 1 ∧
    ∀ j, j ≠ i → u ∉ reports j
  stored : ∀ i, ∀ u ∈ reports i, .text u.text ∈ ids

theorem Tally.add {ids : List Store.Cell} {reports reports' : Nat → List Uuid} {u : Uuid} {i : Nat}
    (h : Tally ids reports) (hnew : .text u.text ∉ ids) (hi : reports' i = reports i ++ [u])
    (hne : ∀ j, j ≠ i → reports' j = reports j) : Tally (ids ++ [.text u.text]) reports' := by
  have hunheard (j : Nat) : u ∉ reports j := fun hu => hnew (h.stored j u hu)
  refine ⟨?_, ?_⟩
  · intro id hid
    rcases List.mem_append.mp hid with hid | hid
    -- an old row, which was reported under another identifier than the new one
    · obtain ⟨v, k, hv, hcount, hothers⟩ := h.once id hid
      have hvu : v ≠ u := by
        intro heq
        rw [hv, heq] at hid
        exact hnew hid
      refine ⟨v, k, hv, ?_, ?_⟩
      · by_cases hk : k = i
        · rw [hk, hi, List.count_append, ← hk, hcount, List.count_singleton, if_neg]
          simpa using hvu.symm
        · rw [hne k hk, hcount]
      · intro j hj
        by_cases hji : j = i
        · rw [hji, hi, List.mem_append, List.mem_singleton]
          rintro (hmem | rfl)
          · exact hothers j hj (hji ▸ hmem)
          · exact hvu rfl
        · rw [hne j hji]
          exact hothers j hj
    -- the new row, of which nobody has told before
    · refine ⟨u, i, List.mem_singleton.mp hid, ?_, ?_⟩
      · rw [hi, List.count_append, List.count_eq_zero_of_not_mem (hunheard i),
          List.count_singleton_self]
      · intro j hj
        rw [hne j hj]
        exact hunheard j
  · intro j v hv
    rw [List.mem_append, List.mem_singleton]
    by_cases hj : j = i
    · rw [hj, hi, List.mem_append, List.mem_singleton] at hv
      rcases hv with hv | rfl
      · exact .inl (h.stored i v hv)
      · exact .inr rfl
    · rw [hne j hj] at hv
      exact .inl (h.stored j v hv)

variable {d d' : Desk} {m : Moment} {c start : Call}

/-- The identifiers of all proposals. -/
def Store.ids (s : Store) : List Store.Cell := s.proposals.map (·.id)

theorem ids_changed {s s' : Store} {t : Store.Transition}
    (h : s'.proposals = s.proposals.map (·.after t)) : s'.ids = s.ids := by
  simp only [Store.ids, h, List.map_map, Function.comp_def, Store.after_id]

theorem ids_effect (h : Desk.Effect m d c d') (ha : c.adds? m = none) :
    d'.store.ids = d.store.ids := by
  cases h with
  | quiet _ _ _ h => simp only [Store.ids, h.proposals]
  | added p _ hp =>
    rw [ha] at hp
    cases hp
  | moved id _ _ _ _ h =>
    cases h with
    | changed t _ =>
      rcases Store.transition_cases d.store t with ⟨h, -⟩ | ⟨-, h⟩
      · simp only [h]
      · exact ids_changed (by rw [h]; rfl)
    | recorded t e _ _ _ =>
      rcases Store.transitionWithEntry_cases d.store t e with h | ⟨-, h⟩
      · simp only [h]
      · exact ids_changed (by rw [h]; rfl)
    | handedOut p _ => rfl

/-- What a step does to the identifiers and to the reports of its call. -/
def Accounts (start : Call) (d : Desk) (c c' : Call) (d' : Desk) : Prop :=
  d'.store.ids = d.store.ids ∧ start.reports c' = start.reports c ∨
    ∃ u : Uuid, .text u.text ∉ d.store.ids ∧ d'.store.ids = d.store.ids ++ [.text u.text] ∧
      start.reports c' = start.reports c ++ [u]

theorem ids_inserted {p : Proposal} {s' : Store} (hr : d.store.Ready)
    (h : d.store.insertProposal p = (.ok true, s')) :
    .text p.id.text ∉ d.store.ids ∧ s'.ids = d.store.ids ++ [.text p.id.text] := by
  refine ⟨?_, ?_⟩
  · intro hmem
    obtain ⟨r, hr', hid⟩ := List.mem_map.mp hmem
    have hnone := Store.rowOf_of_inserted hr (by rw [h])
    rw [Store.rowOf, List.find?_eq_none] at hnone
    exact hnone r hr' (Store.isOf_iff.mpr hid)
  · rcases Store.insertProposal_cases hr p with hc | hc
    · rw [h] at hc
      cases hc
    · rw [h, Prod.mk.injEq] at hc
      rw [hc.2, Store.ids, List.map_append]
      rfl

theorem accounts_same (h : d'.store.ids = d.store.ids) {c' : Call}
    (hreports : start.reports c' = start.reports c) : Accounts start d c c' d' := .inl ⟨h, hreports⟩

theorem accounts_renewal (su : Setup) (hr : d.store.Ready) (id : Uuid) {r : Review}
    (h : (Call.review (.retry id)).Follows (.review r)) :
    (Call.review (.retry id)).Follows (Call.step su m d (.review r)).1 ∧
      Accounts (.review (.retry id)) d (.review r) (Call.step su m d (.review r)).1
        (Call.step su m d (.review r)).2 := by
  cases r with
  | retry other =>
    simp only [Call.step, Review.step]
    split
    · exact ⟨trivial, accounts_same rfl rfl⟩
    · split
      · exact ⟨trivial, accounts_same rfl rfl⟩
      · exact ⟨trivial, accounts_same rfl rfl⟩
  | renew p =>
    rcases Store.insertProposal_cases hr p with hi | hi
    · simp only [Call.step, Review.step, Desk.on, hi]
      exact ⟨trivial, accounts_same rfl rfl⟩
    · have hids := ids_inserted hr hi
      simp only [Call.step, Review.step, Desk.on, hi]
      exact ⟨trivial, .inr ⟨p.id, hids.1, hids.2, rfl⟩⟩
  | tellRenewed p => exact ⟨trivial, accounts_same rfl rfl⟩
  | done result => exact ⟨trivial, accounts_same rfl rfl⟩
  | _ => exact h.elim

theorem accounts_intake (su : Setup) (hr : d.store.Ready) (i j : Intake) :
    Accounts (.intake i) d (.intake j) (Call.step su m d (.intake j)).1
      (Call.step su m d (.intake j)).2 := by
  cases j with
  | batch records =>
    simp only [Call.step, Intake.step]
    split <;> exact accounts_same rfl rfl
  | place decisions now r =>
    cases decisions with
    | nil => exact accounts_same rfl rfl
    | cons x rest =>
      cases hf : x.found with
      | none =>
        simp only [Call.step, Intake.step, hf]
        exact accounts_same rfl rfl
      | some found =>
        rcases Store.insertProposal_cases hr (.ofMatch m.fresh found now) with hi | hi
        · simp only [Call.step, Intake.step, Desk.on, hf, hi]
          exact accounts_same rfl rfl
        · have hids := ids_inserted hr hi
          simp only [Call.step, Intake.step, Desk.on, hf, hi]
          exact .inr ⟨m.fresh, hids.1, hids.2, rfl⟩
  | tellProposed p decisions now r =>
    refine accounts_same rfl ?_
    simp only [Call.step, Intake.step, Call.reports, List.map_append, List.map_cons, List.map_nil]
  | done r => exact accounts_same rfl rfl

theorem adds?_of_mayAdd (h : c.mayAdd = false) (m : Moment) : c.adds? m = none := by
  rcases c with r | i | a | q | q
  · cases r <;> first | rfl | cases h
  · cases h
  · rfl
  · rfl
  · rfl

theorem mayAdd_step (su : Setup) (hr : d.store.Ready) (h : c.mayAdd = false) :
    (c.step su m d).1.mayAdd = false := by
  rcases c with r | i | a | q | q
  · have hleads := leads_step (m := m) su.registry hr r
    simp only [Call.step]
    generalize (r.step su.registry m d).1 = r' at *
    cases hleads with
    | retried p r hp => cases h
    | renewed p => cases h
    | _ => rfl
  · cases h
  · rfl
  · rfl
  · rfl

/-- A step of a call goes on from what it began as, and its reports keep up with the store. -/
theorem accounts_step (su : Setup) (hr : d.store.Ready) (h : start.Follows c) :
    start.Follows (c.step su m d).1 ∧ Accounts start d c (c.step su m d).1 (c.step su m d).2 := by
  -- a call of neither kind has nothing to report, before the step and after it
  have hother (hf : ∀ now, start.Follows now ↔ now.mayAdd = false)
      (hn : ∀ now, start.reports now = []) :
      start.Follows (c.step su m d).1 ∧ Accounts start d c (c.step su m d).1 (c.step su m d).2 := by
    rw [hf] at h ⊢
    refine ⟨mayAdd_step su hr h, accounts_same ?_ (by rw [hn, hn])⟩
    exact ids_effect (effect_step su c) (adds?_of_mayAdd h m)
  rcases start with r | i | a | q | q
  · cases r with
    | retry id =>
      rcases c with r | i | a | q | q
      · exact accounts_renewal su hr id h
      all_goals exact h.elim
    | _ => exact hother (fun _ => Iff.rfl) fun _ => rfl
  · obtain ⟨j, rfl⟩ := h
    exact ⟨⟨_, rfl⟩, accounts_intake su hr i j⟩
  · exact hother (fun _ => Iff.rfl) fun _ => rfl
  · exact hother (fun _ => Iff.rfl) fun _ => rfl
  · exact hother (fun _ => Iff.rfl) fun _ => rfl

/-- What the call at a place has reported. -/
def reportsOf (start : List Call) (t : Traffic) (i : Nat) : List Uuid :=
  match start[i]?, t.calls[i]? with
  | some s, some c => s.reports c
  | _, _ => []

/-- What holds of calls that began together on an empty desk. -/
structure Accounted (start : List Call) (t : Traffic) : Prop where
  ready : t.desk.store.Ready
  follows : ∀ (i : Nat) (s c : Call), start[i]? = some s → t.calls[i]? = some c → s.Follows c
  length : t.calls.length = start.length
  tally : Tally t.desk.store.ids (reportsOf start t)

section Reports

variable {start : List Call} {t : Traffic} {x : Turn} {s c : Call}

/-- A step changes what its own call has reported. -/
theorem reportsOf_self (hs : start[x.who]? = some s) (hc : t.calls[x.who]? = some c) :
    reportsOf start (t.step x) x.who = s.reports (c.step x.setup x.moment t.desk).1 := by
  simp only [reportsOf, hs, step_of_get hc, get_set_self hc]

theorem reportsOf_of_ne {i : Nat} (hi : i ≠ x.who) :
    reportsOf start (t.step x) i = reportsOf start t i := by
  rw [reportsOf, reportsOf, get_step_of_ne hi.symm]

theorem Accounted.exists_start (h : Accounted start t) {i : Nat} (hc : t.calls[i]? = some c) :
    ∃ s, start[i]? = some s ∧ s.Follows c := by
  have hlt : i < t.calls.length := (List.getElem?_eq_some_iff.mp hc).1
  rw [h.length] at hlt
  exact ⟨start[i], List.getElem?_eq_getElem hlt,
    h.follows i start[i] c (List.getElem?_eq_getElem hlt) hc⟩

theorem accounted_step (h : Accounted start t) (x : Turn) : Accounted start (t.step x) := by
  cases hc : t.calls[x.who]? with
  | none => rwa [step_of_none hc]
  | some c =>
    obtain ⟨s, hs, hsc⟩ := h.exists_start hc
    obtain ⟨hfollows, haccounts⟩ := accounts_step (m := x.moment) x.setup h.ready hsc
    have hbefore : reportsOf start t x.who = s.reports c := by simp only [reportsOf, hs, hc]
    have hself := reportsOf_self (x := x) hs hc
    refine ⟨h.ready.step x, ?_, ?_, ?_⟩
    · intro i s' u hs' hu
      rw [step_of_get hc] at hu
      rcases get_set hu with ⟨rfl, rfl⟩ | ⟨-, hu⟩
      · rw [hs] at hs'
        cases hs'
        exact hfollows
      · exact h.follows i s' u hs' hu
    · rw [step_of_get hc, List.length_set, h.length]
    · have hdesk : (t.step x).desk = (c.step x.setup x.moment t.desk).2 := by rw [step_of_get hc]
      rw [hdesk]
      -- the step adds no row and reports nothing new, or it does both at once
      rcases haccounts with ⟨hids, hreports⟩ | ⟨u, hnew, hids, hreports⟩
      · have hsame : reportsOf start (t.step x) = reportsOf start t := by
          funext j
          by_cases hj : j = x.who
          · rw [hj, hself, hreports, hbefore]
          · exact reportsOf_of_ne hj
        rw [hids, hsame]
        exact h.tally
      · rw [hids]
        apply h.tally.add hnew (i := x.who)
        · rw [hself, hreports, hbefore]
        · intro j hj
          exact reportsOf_of_ne hj

/-- What was reported stays reported. -/
theorem Accounted.reports_step (h : Accounted start t) (x : Turn) (i : Nat) :
    reportsOf start t i ⊆ reportsOf start (t.step x) i := by
  by_cases hi : i = x.who
  · cases hc : t.calls[x.who]? with
    | none =>
      rw [step_of_none hc]
      exact List.Subset.refl _
    | some c =>
      obtain ⟨s, hs, hsc⟩ := h.exists_start hc
      have hbefore : reportsOf start t x.who = s.reports c := by simp only [reportsOf, hs, hc]
      rw [hi, hbefore, reportsOf_self hs hc]
      rcases (accounts_step (m := x.moment) x.setup h.ready hsc).2 with
        ⟨-, hreports⟩ | ⟨u, -, -, hreports⟩
      · rw [hreports]
        exact List.Subset.refl _
      · rw [hreports]
        exact List.subset_append_left _ _
  · rw [reportsOf_of_ne hi]
    exact List.Subset.refl _

end Reports

theorem accounted_run {start : List Call} {t : Traffic} (h : Accounted start t)
    (turns : List Turn) : Accounted start (t.run turns) := by
  induction turns generalizing t with
  | nil => exact h
  | cons x turns ih => exact ih (accounted_step h x)

theorem reports_start (h : c.isStart = true) : c.Follows c ∧ c.reports c = [] := by
  rcases c with r | i | a | q | q
  · cases r <;> first | exact ⟨trivial, rfl⟩ | exact ⟨rfl, rfl⟩ | cases h
  · cases i <;> first | exact ⟨⟨_, rfl⟩, rfl⟩ | cases h
  · exact ⟨rfl, rfl⟩
  · exact ⟨rfl, rfl⟩
  · exact ⟨rfl, rfl⟩

theorem accounted_start {calls : List Call} (h : ∀ c ∈ calls, c.isStart = true) :
    Accounted calls ⟨.empty, calls⟩ := by
  refine ⟨Store.ready_empty, ?_, rfl, ?_⟩
  · intro i s c hs hc
    rw [hs] at hc
    cases hc
    exact (reports_start (h s (List.mem_of_getElem? hs))).1
  · refine ⟨fun id hid => (List.not_mem_nil hid).elim, fun i u hu => ?_⟩
    simp only [reportsOf] at hu
    split at hu
    · next s c hs hc =>
      rw [hs] at hc
      cases hc
      rw [(reports_start (h s (List.mem_of_getElem? hs))).2] at hu
      cases hu
    · cases hu

/-- Whatever is done to an empty store, no two pending proposals are about one record by one policy,
and an addition answers no exactly when it would make such a pair or take an identifier twice; so
among calls in any order each proposal of the store is reported as new once, by one call. -/
theorem proposals_enter_once :
    (∀ operations : List Store.Operation, ∀ s, s = Store.empty.afterAll operations →
      s.proposals.Pairwise (fun r u => ¬ r.Doubles u) ∧
      ∀ p, (s.insertProposal p = (.ok false, s) ↔ s.Blocked p) ∧
        (s.insertProposal p =
          (.ok true, { s with proposals := s.proposals ++ [.ofProposal p] }) ↔ ¬ s.Blocked p)) ∧
    ∀ (calls : List Call) (turns : List Turn), (∀ c ∈ calls, c.isStart = true) →
      ∀ t, t = (⟨.empty, calls⟩ : Traffic).run turns →
        Tally t.desk.store.ids (reportsOf calls t) := by
  refine ⟨?_, ?_⟩
  · rintro operations s rfl
    have hf := Store.filled_empty.afterAll operations
    refine ⟨hf.single, fun p => ⟨⟨?_, Store.insertProposal_of_blocked hf⟩,
      ⟨?_, Store.insertProposal_of_not_blocked hf⟩⟩⟩
    · intro hno
      by_contra hb
      rw [Store.insertProposal_of_not_blocked hf hb] at hno
      cases hno
    · intro hyes hb
      rw [Store.insertProposal_of_blocked hf hb] at hyes
      cases hyes
  · rintro calls turns hstart t rfl
    exact (accounted_run (accounted_start hstart) turns).tally

/-- A policy that matches every record, for use in examples. -/
def sampleDraft : Policy.Draft :=
  ⟨"", 0, true, .obj [("all", .arr [])], "archive", .null, .one, ""⟩

/-- A policy and two batches with the same record, for use in examples. -/
def sampleCalls : List Call :=
  [.authoring (.create sampleDraft), .intake (.batch [⟨"m-1", []⟩]), .intake (.batch [⟨"m-1", []⟩])]

/-- Both batches decide before either of them adds its match. -/
def sampleBatches : Traffic :=
  (⟨.empty, sampleCalls⟩ : Traffic).run [sampleTurn 0 0, sampleTurn 1 1, sampleTurn 2 2,
    sampleTurn 2 3, sampleTurn 1 4, sampleTurn 2 5, sampleTurn 1 6, sampleTurn 2 7]

theorem proposals_enter_once_sample :
    (∀ c ∈ sampleCalls, c.isStart = true) ∧ sampleBatches.calls.all Call.isDone = true ∧
      sampleBatches.desk.store.ids = [.text (numbered 3).text] ∧
      Tally sampleBatches.desk.store.ids (reportsOf sampleCalls sampleBatches) ∧
      Store.sampleStore.insertProposal Store.sampleProposal = (.ok false, Store.sampleStore) := by
  have hstart : ∀ c ∈ sampleCalls, c.isStart = true := by decide
  refine ⟨hstart, by decide +kernel, by decide +kernel, ?_, ?_⟩
  · exact proposals_enter_once.2 sampleCalls _ hstart _ rfl
  · have hblocked : Store.sampleStore.Blocked Store.sampleProposal :=
      .inl ⟨.ofProposal Store.sampleProposal, by decide +kernel, rfl⟩
    exact ((proposals_enter_once.1 [.insert Store.sampleProposal] _ rfl).2 _).1.mpr hblocked

end Signoff
