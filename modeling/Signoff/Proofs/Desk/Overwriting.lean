import Mathlib
import Signoff.Proofs.Desk.Orderly

/-!
What an update answers while others write. It puts a body into the row of the policy in one step and
looks at the row in another, and between the two the row is anybody's. So it answers with the policy
as the last of them left it, and finds none when one of them has removed it.
-/

namespace Signoff

open Store

namespace Policy

/-- What a step writes about the policy under a number. -/
inductive Edit where
  | rewritten (body : Body)
  | switched (enabled : Bool)
  | removed

/-- The body that stands there after an edit, if one does. -/
def Edit.apply (stood : Option Body) : Edit → Option Body
  | .rewritten body => stood.map fun _ => body
  | .switched enabled => stood.map (·.switched enabled)
  | .removed => none

end Policy

/-- What the next step of a call writes about the policy under a number. -/
def Call.edit? (id : Int) : Call → Option Policy.Edit
  | .authoring (.update other draft) =>
    if other = id then draft.validate.toOption.map .rewritten else none
  | .authoring (.switch other enabled) => if other = id then some (.switched enabled) else none
  | .authoring (.delete other) => if other = id then some .removed else none
  | _ => none

/-- What the steps of a schedule write about the policy under a number, one after the other. -/
def Traffic.edits (id : Int) : Traffic → List Turn → List Policy.Edit
  | _, [] => []
  | t, x :: turns => (t.calls[x.who]?.bind (·.edit? id)).toList ++ edits id (t.step x) turns

/-- What an update of the policy under a number answers that finds a store as it is and that is
overtaken by edits before it looks at the row. -/
inductive UpdateAnswers (s : Store) (id : Int) (draft : Policy.Draft) (edits : List Policy.Edit) :
    Authoring.Result → Prop
  | flawed (f : Policy.Draft.Flaw) (hdraft : draft.validate = .error f) :
    UpdateAnswers s id draft edits (.error (.flawed f))
  | missing (body : Policy.Body) (hdraft : draft.validate = .ok body)
    (hnone : id ∉ s.policies.map (·.id)) : UpdateAnswers s id draft edits (.error (.notFound id))
  | removed (body : Policy.Body) (hdraft : draft.validate = .ok body)
    (hthere : id ∈ s.policies.map (·.id))
    (hgone : edits.foldl Policy.Edit.apply (some body) = none) :
    UpdateAnswers s id draft edits (.error (.notFound id))
  | answered (body stood : Policy.Body) (p : Policy) (hdraft : draft.validate = .ok body)
    (hthere : id ∈ s.policies.map (·.id))
    (hstood : edits.foldl Policy.Edit.apply (some body) = some stood) (hid : p.id = id)
    (hbody : p.body = stood.unsigned) : UpdateAnswers s id draft edits (.ok p)

variable {d : Desk} {m : Moment} {b : Book} {id : Int} {t : Traffic}

/-! ### What stands in the book -/

/-- The body that stands in a book under a number. -/
def Book.body? (b : Book) (id : Int) : Option Policy.Body := (b.entry id).map (·.body)

theorem Book.body?_alter (b : Book) (other id : Int) (f : Entry → Entry) :
    (b.alter other f).body? id =
      if other = id then (b.entry id).map fun e => (f e).body else b.body? id := by
  unfold body?
  split
  · next h => rw [h, b.alter_self, Option.map_map]; rfl
  · next h => rw [b.alter_of_ne f (Ne.symm h)]

theorem Book.last_le_stepped (b : Book) (m : Moment) (c : Call) :
    b.last ≤ (b.stepped m c).last := by
  unfold stepped
  split
  · split
    · split
      · change b.last ≤ b.last + 1
        omega
      · exact le_rfl
    · exact le_rfl
  · split <;> exact le_rfl
  all_goals exact le_rfl

/-- A step does to what stands under a number that was given out what it writes about it. -/
theorem Book.body?_stepped (b : Book) (m : Moment) (c : Call) (hid : id ≤ b.last) :
    (b.stepped m c).body? id = (c.edit? id).toList.foldl Policy.Edit.apply (b.body? id) := by
  unfold stepped
  split
  · next draft =>
    -- a new policy has a number of its own
    have hnew : id ≠ b.last + 1 := by omega
    have hadd (body : Policy.Body) : (b.add body m.now).body? id = b.body? id := by
      rw [body?, b.add_of_ne body m.now hnew, body?]
    split
    · split
      · exact hadd _
      · rfl
    · rfl
  · next other draft =>
    rw [Call.edit?]
    cases hdraft : draft.validate with
    | error f => simp [Except.toOption]
    | ok body =>
      dsimp only
      rw [body?_alter]
      split <;> simp [Except.toOption, Policy.Edit.apply, body?, Function.comp_def]
  · next other enabled =>
    rw [Call.edit?, body?_alter]
    split <;> simp [Policy.Edit.apply, body?, Function.comp_def]
  · next other =>
    rw [Call.edit?]
    split
    · next h => rw [h, body?, b.remove_self]; rfl
    · next h => rw [body?, b.remove_of_ne (Ne.symm h), body?]; rfl
  · next hcreate hupdate hswitch hdelete =>
    have hnone : c.edit? id = none := by
      unfold Call.edit?
      split
      · next draft => exact absurd rfl (hupdate _ draft)
      · next enabled => exact absurd rfl (hswitch _ enabled)
      · exact absurd rfl (hdelete _)
      · rfl
    rw [hnone]
    rfl

/-! ### Schedules -/

/-- Drafts that have not been looked at stay as they were brought. -/
theorem legible_run (hdrafts : ∀ c ∈ t.calls, ∀ draft, c.draft? = some draft → draft.Legible)
    (turns : List Turn) :
    ∀ c ∈ (t.run turns).calls, ∀ draft, c.draft? = some draft → draft.Legible := by
  refine (run_keeps (I := fun _ => True) (Q := fun _ => True) ?_ trivial hdrafts
    fun _ _ => trivial).2
  exact fun x c d _ _ _ => ⟨trivial, legible_draft_step x.setup x.moment d c⟩

/-- What stands under a number after a run is what stood there before it, with all that was written
about it on the way. -/
theorem edited_run (h : t.desk.store.Represents b) (hid : id ≤ b.last)
    (hdrafts : ∀ c ∈ t.calls, ∀ draft, c.draft? = some draft → draft.Legible) {turns : List Turn}
    (hclock : ∀ x ∈ turns, x.moment.now.Sortable) :
    ∃ b', (t.run turns).desk.store.Represents b' ∧
      b'.body? id = (t.edits id turns).foldl Policy.Edit.apply (b.body? id) := by
  -- over the turns, with the book that stands for the table so far
  induction turns generalizing t b with
  | nil => exact ⟨b, h, rfl⟩
  | cons x turns ih =>
    have hrest := fun y hy => hclock y (List.mem_cons_of_mem _ hy)
    have hlater := legible_run hdrafts [x]
    rw [Traffic.edits, List.foldl_append]
    change ∃ b', ((t.step x).run turns).desk.store.Represents b' ∧ _
    cases hc : t.calls[x.who]? with
    | none =>
      rw [step_of_none hc]
      exact ih h hid hdrafts hrest
    | some c =>
      have hstep : (t.step x).desk.store.Represents (b.stepped x.moment c) := by
        rw [step_of_get hc]
        exact represents_step x.setup h (hclock x List.mem_cons_self)
          (hdrafts c (List.mem_of_getElem? hc))
      rw [Option.bind_some, ← b.body?_stepped x.moment c hid]
      exact ih hstep (hid.trans (b.last_le_stepped x.moment c)) hlater hrest

/-! ### The answer -/

theorem Store.Represents.mem_ids_iff {s : Store} (h : s.Represents b) :
    id ∈ s.policies.map (·.id) ↔ b.entry id ≠ none := by
  constructor
  · intro hmem hnone
    obtain ⟨r, hr, hid⟩ := List.mem_map.mp hmem
    exact h.ne_of_none hnone r hr hid
  · intro hsome
    obtain ⟨e, he⟩ := Option.ne_none_iff_exists'.mp hsome
    exact List.mem_map.mpr ⟨_, h.mem_of_entry he, rfl⟩

theorem update_step (su : Setup) (h : d.store.Represents b) {draft : Policy.Draft}
    {body : Policy.Body} (hdraft : draft.validate = .ok body) :
    (Call.step su m d (.authoring (.update id draft))).1 =
      .authoring (Authoring.afterWrite id (.ok (b.entry id).isSome)) := by
  rw [Call.step, Authoring.step]
  simp only [hdraft, Desk.on, Store.writeBody, h.changePolicy]

/-- A policy that is looked at after edits is as they have left it. -/
theorem answers_of_found {s s' : Store} {b' : Book} {draft : Policy.Draft} {body : Policy.Body}
    {edits : List Policy.Edit} (hdraft : draft.validate = .ok body)
    (hthere : id ∈ s.policies.map (·.id)) (h : s'.Represents b')
    (hbody : b'.body? id = edits.foldl Policy.Edit.apply (some body)) :
    UpdateAnswers s id draft edits (Authoring.found s' id) := by
  rw [h.found]
  unfold Book.body? at hbody
  cases he : b'.entry id with
  | none =>
    rw [he, Option.map_none] at hbody
    exact .removed body hdraft hthere hbody.symm
  | some e =>
    rw [he, Option.map_some] at hbody
    exact .answered body e.body _ hdraft hthere hbody.symm rfl rfl

/-- With no edit in between the answer tells what was written. -/
theorem UpdateAnswers.of_undisturbed {s : Store} {draft : Policy.Draft} {r : Authoring.Result}
    (h : UpdateAnswers s id draft [] r) :
    (∀ p, r = .ok p → ∃ body, draft.validate = .ok body ∧ p.body = body.unsigned) ∧
      (r = .error (.notFound id) → id ∉ s.policies.map (·.id)) := by
  cases h with
  | flawed f _ => exact ⟨nofun, nofun⟩
  | missing body _ hnone => exact ⟨nofun, fun _ => hnone⟩
  | removed body _ _ hgone => cases hgone
  | answered body stood p hdraft _ hstood _ hbody =>
    cases hstood
    refine ⟨?_, nofun⟩
    rintro _ ⟨⟩
    exact ⟨body, hdraft, hbody⟩

/-- An update that takes its two steps, with steps of others between them, has its answer then. -/
theorem answers_of_steps (h : t.desk.store.Represents b)
    (hdrafts : ∀ c ∈ t.calls, ∀ draft, c.draft? = some draft → draft.Legible) {x y : Turn}
    {between : List Turn} (hclock : ∀ z ∈ x :: between, z.moment.now.Sortable)
    {draft : Policy.Draft} (hcall : t.calls[x.who]? = some (.authoring (.update id draft)))
    (hsame : y.who = x.who) (hothers : ∀ z ∈ between, z.who ≠ x.who) :
    ∃ r, (((t.step x).run between).step y).calls[x.who]? = some (.authoring (.done r)) ∧
      UpdateAnswers t.desk.store id draft ((t.step x).edits id between) r := by
  have hfirst : (t.step x).calls[x.who]? =
      some (Call.step x.setup x.moment t.desk (.authoring (.update id draft))).1 := by
    rw [step_of_get hcall]
    exact get_set_self hcall _
  -- an update that is refused at once has its answer from the first step on
  have hended {r : Authoring.Result}
      (hr : (Call.step x.setup x.moment t.desk (.authoring (.update id draft))).1 =
        .authoring (.done r)) :
      (((t.step x).run between).step y).calls[x.who]? = some (.authoring (.done r)) := by
    have hlast := get_run_of_isDone (hr ▸ hfirst) rfl (between ++ [y])
    rwa [run_append] at hlast
  cases hdraft : draft.validate with
  | error f =>
    refine ⟨_, hended ?_, .flawed f hdraft⟩
    rw [Call.step, Authoring.step, hdraft]
  | ok body =>
    have hupdate : (Call.step x.setup x.moment t.desk (.authoring (.update id draft))).1 =
        .authoring (Authoring.afterWrite id (.ok (b.entry id).isSome)) :=
      update_step x.setup h hdraft
    by_cases hentry : b.entry id = none
    · rw [hentry] at hupdate
      exact ⟨_, hended hupdate, .missing body hdraft fun hmem => h.mem_ids_iff.mp hmem hentry⟩
    · obtain ⟨e, he⟩ := Option.ne_none_iff_exists'.mp hentry
      have hid : id ≤ b.last := by
        by_contra hlt
        exact hentry (h.entry_of_lt (not_le.mp hlt))
      -- the row has the new body now, and what the others write comes on top of it
      have hstep : (t.step x).desk.store.Represents
          (b.stepped x.moment (.authoring (.update id draft))) := by
        rw [step_of_get hcall]
        exact represents_step x.setup h (hclock x List.mem_cons_self)
          (hdrafts _ (List.mem_of_getElem? hcall))
      have hwritten : (b.stepped x.moment (.authoring (.update id draft))).body? id =
          some body := by
        rw [b.body?_stepped x.moment _ hid, Call.edit?, if_pos rfl, hdraft, Book.body?, he]
        rfl
      obtain ⟨b', hb', hbody⟩ := edited_run hstep (hid.trans (b.last_le_stepped x.moment _))
        (legible_run hdrafts [x]) fun z hz => hclock z (List.mem_cons_of_mem _ hz)
      rw [hwritten] at hbody
      refine ⟨_, ?_, answers_of_found hdraft (h.mem_ids_iff.mpr hentry) hb' hbody⟩
      rw [he, Option.isSome_some, Authoring.afterWrite] at hupdate
      have hlooks : ((t.step x).run between).calls[y.who]? = some (.authoring (.reread id)) := by
        rw [hsame, get_run_of_ne hothers, hfirst, hupdate]
      rw [step_of_get hlooks, ← hsame]
      exact get_set_self hlooks _

/-- Whatever calls go on at once on a desk that was empty, an update that takes its two steps is
answered. A flawed draft is refused; where no policy has the number, none is found; and else the
answer is the policy as its own body and the edits between the two steps have left it, or that there
is none if one of them has removed it. With no edit between the two steps the answer has the body
that was written, and no policy is found only where none was changed. -/
theorem update_answered {calls : List Call} {before between after : List Turn} {x y : Turn}
    {id : Int} {draft : Policy.Draft} (hbrought : ∀ c ∈ calls, c.Brought)
    (hclock : ∀ z ∈ before ++ x :: between ++ y :: after, z.moment.now.Sortable)
    (hcall : calls[x.who]? = some (.authoring (.update id draft))) (hsame : y.who = x.who)
    (hothers : ∀ z ∈ before ++ between, z.who ≠ x.who) :
    ∀ t, t = (⟨.empty, calls⟩ : Traffic).run before →
      ∃ r, ((⟨.empty, calls⟩ : Traffic).run (before ++ x :: between ++ y :: after)).calls[x.who]? =
          some (.authoring (.done r)) ∧
        UpdateAnswers t.desk.store id draft ((t.step x).edits id between) r ∧
        ((t.step x).edits id between = [] →
          (∀ p, r = .ok p → ∃ body, draft.validate = .ok body ∧ p.body = body.unsigned) ∧
          (r = .error (.notFound id) → id ∉ t.desk.store.policies.map (·.id))) := by
  rintro t rfl
  have hpast : ∀ z ∈ before, z.moment.now.Sortable := fun z hz =>
    hclock z (List.mem_append_left _ (List.mem_append_left _ hz))
  have hsteps : ∀ z ∈ x :: between, z.moment.now.Sortable := fun z hz =>
    hclock z (List.mem_append_left _ (List.mem_append_right _ hz))
  obtain ⟨b, hb⟩ := represents_of_brought hbrought hpast
  have hdrafts := legible_run (t := ⟨.empty, calls⟩) (fun c hc => (hbrought c hc).draft) before
  have hwaiting : ((⟨.empty, calls⟩ : Traffic).run before).calls[x.who]? =
      some (.authoring (.update id draft)) := by
    rw [get_run_of_ne fun z hz => hothers z (List.mem_append_left _ hz)]
    exact hcall
  obtain ⟨r, hr, hanswers⟩ := answers_of_steps hb hdrafts hsteps hwaiting hsame
    fun z hz => hothers z (List.mem_append_right _ hz)
  refine ⟨r, ?_, hanswers, fun hundisturbed => ?_⟩
  · rw [run_append, run_append]
    exact get_run_of_isDone hr rfl after
  · rw [hundisturbed] at hanswers
    exact hanswers.of_undisturbed

/-- A policy, two updates of it that give it different names, its removal, and an update with a
confidence that is a zero with a sign; for use in examples. -/
def sampleWriters : List Call :=
  [.authoring (.create sampleDraft), .authoring (.update 1 { sampleDraft with name := "ann" }),
    .authoring (.update 1 { sampleDraft with name := "bob" }), .authoring (.delete 1),
    .authoring (.update 1 { sampleDraft with confidence := ⟨true, 0⟩ })]

theorem brought_sampleWriters : ∀ c ∈ sampleWriters, c.Brought := by
  have hupdate (draft : Policy.Draft) (hcondition : draft.condition = sampleDraft.condition)
      (hparams : draft.params = sampleDraft.params) :
      (Call.authoring (.update 1 draft)).Brought := by
    refine Call.brought_authoring rfl ?_
    rintro _ ⟨⟩
    exact ⟨hcondition ▸ legible_sampleDraft.condition, hparams ▸ legible_sampleDraft.params⟩
  have hcreate : (Call.authoring (.create sampleDraft)).Brought := by
    refine Call.brought_authoring rfl ?_
    rintro _ ⟨⟩
    exact legible_sampleDraft
  have hdelete : (Call.authoring (.delete 1)).Brought :=
    Call.brought_authoring rfl (by rintro _ ⟨⟩)
  simp only [sampleWriters, List.forall_mem_cons, List.not_mem_nil, false_implies, implies_true,
    and_true]
  exact ⟨hcreate, hupdate _ rfl rfl, hupdate _ rfl rfl, hdelete, hupdate _ rfl rfl⟩

theorem update_answered_sample :
    let t := (⟨.empty, sampleWriters⟩ : Traffic).run [sampleTurn 0 0]
    let bob := [sampleTurn 2 2]
    (∀ c ∈ sampleWriters, c.Brought) ∧
      ∃ r, ((⟨.empty, sampleWriters⟩ : Traffic).run
          ([sampleTurn 0 0] ++ sampleTurn 1 1 :: bob ++ sampleTurn 1 3 :: [])).calls[1]? =
          some (.authoring (.done r)) ∧
        UpdateAnswers t.desk.store 1 { sampleDraft with name := "ann" }
          ((t.step (sampleTurn 1 1)).edits 1 bob) r := by
  intro t bob
  have hclock : ∀ z ∈ [sampleTurn 0 0] ++ sampleTurn 1 1 :: bob ++ sampleTurn 1 3 :: [],
      z.moment.now.Sortable := by
    simp [bob, sortable_sampleTurn]
  have hcall : sampleWriters[(sampleTurn 1 1).who]? =
      some (.authoring (.update 1 { sampleDraft with name := "ann" })) := rfl
  have hothers : ∀ z ∈ [sampleTurn 0 0] ++ bob, z.who ≠ (sampleTurn 1 1).who := by
    simp [bob, sampleTurn]
  obtain ⟨r, hr, hanswers, -⟩ :=
    update_answered brought_sampleWriters hclock hcall rfl hothers t rfl
  exact ⟨brought_sampleWriters, r, hr, hanswers⟩

/-- The policy that a call has answered with. -/
def Call.policy? : Call → Option Policy
  | .authoring (.done (.ok p)) => some p
  | _ => none

/-- The number that a call has not found. -/
def Call.missed? : Call → Option Int
  | .authoring (.done (.error (.notFound id))) => some id
  | _ => none

/-- The update of one author answers with the name that another has given to the policy, it finds no
policy when another has removed the one that it had changed, and even by itself it does not answer
with the sign of the zero that it was given. -/
theorem update_answers_another :
    let t := (⟨.empty, sampleWriters⟩ : Traffic)
    let answered (turns : List Turn) (i : Nat) := (t.run turns).calls[i]?.bind Call.policy?
    let missed (turns : List Turn) (i : Nat) := (t.run turns).calls[i]?.bind Call.missed?
    (Policy.Draft.validate { sampleDraft with name := "ann" }).toOption.map (·.name) =
        some "ann" ∧
      (answered [sampleTurn 0 0, sampleTurn 1 1, sampleTurn 2 2, sampleTurn 1 3] 1).map
        (·.body.name) = some "bob" ∧
      (t.run [sampleTurn 0 0]).desk.store.policies.map (·.id) = [1] ∧
      missed [sampleTurn 0 0, sampleTurn 1 1, sampleTurn 3 2, sampleTurn 1 3] 1 = some 1 ∧
      (Policy.Draft.validate { sampleDraft with confidence := ⟨true, 0⟩ }).toOption.map
        (·.confidence) = some ⟨true, 0⟩ ∧
      (answered [sampleTurn 0 0, sampleTurn 4 1, sampleTurn 4 2] 4).map (·.body.confidence) =
        some .zero := by
  decide +kernel

end Signoff
