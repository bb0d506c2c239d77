import Mathlib
import Signoff.Proofs.Desk.Creation
import Signoff.Proofs.Desk.PolicyTable
import Signoff.Store.Edit

/-!
Policies that cannot be read. Someone else can put anything into a row, and then there is no policy
in it: lists leave it out, batches and dry runs go on as if it were not there, and the switch on its
own does not turn it on. What does turn it on is writing another body into it that is on, when it is
the time of its making that does not read.
-/

namespace Signoff

open Store

/-- The rows that can be read. -/
def Store.readableRows (s : Store) : List PolicyRow := s.policies.filter (·.isReadable)

/-- The desk without the rows that cannot be read. -/
def Desk.readable (d : Desk) : Desk := d.withPolicies d.store.readableRows

/-- Traffic on the desk without the rows that cannot be read. -/
def Traffic.readable (t : Traffic) : Traffic := { t with desk := t.desk.readable }

/-- Leaving out what cannot be read does nothing to a list. -/
theorem Store.listPolicies_readable {s : Store} (hids : (s.policies.map (·.id)).Nodup)
    (enabledOnly : Bool) :
    (s.withPolicies s.readableRows).listPolicies enabledOnly = s.listPolicies enabledOnly := by
  cases htable : s.schema.has .policies with
  | false => simp [listPolicies, requires, htable]
  | true =>
    have htable' : (s.withPolicies s.readableRows).schema.has .policies = true := htable
    have hids' : ((s.withPolicies s.readableRows).policies.map (·.id)).Nodup :=
      hids.sublist (List.filter_sublist.map _)
    have hlist := listPolicies_eq htable enabledOnly
    have hlist' := listPolicies_eq htable' enabledOnly
    rw [hlist', hlist, Except.ok.injEq]
    -- both are in order, so it is enough that they have the same members
    apply Decision.eq_of_mem_iff (listed_strict hlist' hids') (listed_strict hlist hids)
    intro p
    rw [mem_listed hlist', mem_listed hlist]
    have hrow (r : PolicyRow) (hr : r.Reads p) :
        r ∈ (s.withPolicies s.readableRows).listedRows enabledOnly ↔
          r ∈ s.listedRows enabledOnly := by
      have hreadable : r.isReadable = true := PolicyRow.isReadable_iff.mpr ⟨p, hr⟩
      cases enabledOnly <;> simp [listedRows, readableRows, hreadable]
    constructor
    · rintro ⟨r, hmem, hr⟩
      exact ⟨r, (hrow r hr).mp hmem, hr⟩
    · rintro ⟨r, hmem, hr⟩
      exact ⟨r, (hrow r hr).mpr hmem, hr⟩

theorem Call.onPolicies_step (su : Setup) (m : Moment) (d : Desk) (c : Call) :
    (c.step su m d).1.onPolicies = c.onPolicies := by
  cases c <;> rfl

section Unaffected

variable {t : Traffic} (hcalls : ∀ c ∈ t.calls, c.onPolicies = false)
  (hids : (t.desk.store.policies.map (·.id)).Nodup)

include hcalls

/-- Calls that are not about policies leave the table of policies alone. -/
theorem policies_traffic (x : Turn) :
    (t.step x).desk.store.policies = t.desk.store.policies ∧
      ∀ c ∈ (t.step x).calls, c.onPolicies = false := by
  cases hget : t.calls[x.who]? with
  | none =>
    rw [step_of_none hget]
    exact ⟨rfl, hcalls⟩
  | some c =>
    have hc : c.onPolicies = false := hcalls c (List.mem_of_getElem? hget)
    rw [step_of_get hget]
    refine ⟨policies_step x.setup hc, ?_⟩
    intro u hu
    rcases List.mem_or_eq_of_mem_set hu with hu | rfl
    · exact hcalls u hu
    · rw [Call.onPolicies_step, hc]

include hids

theorem step_readable (x : Turn) : t.readable.step x = (t.step x).readable := by
  cases hget : t.calls[x.who]? with
  | none =>
    have hget' : t.readable.calls[x.who]? = none := hget
    rw [step_of_none hget, step_of_none hget']
  | some c =>
    have hget' : t.readable.calls[x.who]? = some c := hget
    have hc : c.onPolicies = false := hcalls c (List.mem_of_getElem? hget)
    have hstep := step_withPolicies (m := x.moment) (listPolicies_readable hids true) x.setup hc
    have hrows := policies_step (m := x.moment) (d := t.desk) x.setup hc
    rw [step_of_get hget, step_of_get hget']
    change (⟨(c.step x.setup x.moment (t.desk.withPolicies t.desk.store.readableRows)).2,
      t.calls.set x.who
        (c.step x.setup x.moment (t.desk.withPolicies t.desk.store.readableRows)).1⟩ : Traffic) = _
    rw [hstep]
    simp only [Traffic.readable, Desk.readable, readableRows, hrows]

/-- Whatever such calls do, and in whichever order, they do it alike without the rows that cannot be
read. -/
theorem run_readable (turns : List Turn) : t.readable.run turns = (t.run turns).readable := by
  induction turns generalizing t with
  | nil => rfl
  | cons x turns ih =>
    obtain ⟨hrows, hcalls'⟩ := policies_traffic hcalls x
    have hids' : ((t.step x).desk.store.policies.map (·.id)).Nodup := hrows ▸ hids
    change (t.readable.step x).run turns = ((t.step x).run turns).readable
    rw [step_readable hcalls hids x]
    exact ih hcalls' hids'

end Unaffected

/-- A row that does not tell when it was made. -/
def Store.PolicyRow.Undated (r : PolicyRow) : Prop :=
  ∀ text, r.created = .text text → Instant.ofRfc3339? text = none

/-- A row that cannot be read and was turned on nevertheless: it never told when it was made, and one
of the calls wrote a body into it that is on. -/
structure Store.PolicyRow.Relit (start : List PolicyRow) (calls : List Call) (r : PolicyRow) :
    Prop where
  undated : r.Undated
  origin : ∃ u ∈ start, u.id = r.id ∧ u.created = r.created
  asked : ∃ draft body, .authoring (.update r.id draft) ∈ calls ∧ draft.validate = .ok body ∧
    body.enabled = true

theorem Store.PolicyRow.Reads.dated {r : PolicyRow} {p : Policy} (h : r.Reads p) : ¬r.Undated := by
  obtain ⟨text, htext, hcreated⟩ := h.created
  intro hundated
  rw [hundated text htext] at hcreated
  cases hcreated

/-- A row into which a body was written can be read exactly when it tells when it was made. -/
theorem Store.PolicyRow.isReadable_update {r : PolicyRow} {b : Policy.Body} {now : Instant}
    (hsound : b.Sound) (hlegible : b.Legible) (hnow : now.Sortable) :
    (r.update b now).isReadable = true ∨ r.Undated := by
  by_cases hundated : r.Undated
  · exact .inr hundated
  · left
    simp only [Undated, not_forall] at hundated
    obtain ⟨text, htext, hcreated⟩ := hundated
    obtain ⟨created, hcreated⟩ := Option.ne_none_iff_exists'.mp hcreated
    exact isReadable_iff.mpr ⟨_, reads_update hsound hlegible htext hcreated hnow⟩

theorem Store.PolicyRow.isReadable_switched {r : PolicyRow} (h : r.isReadable = true)
    (enabled : Bool) {now : Instant} (hnow : now.Sortable) :
    (r.switched enabled now).isReadable = true := by
  obtain ⟨p, hp⟩ := isReadable_iff.mp h
  exact isReadable_iff.mpr ⟨_, hp.switched enabled hnow⟩

theorem Store.PolicyRow.isReadable_ofBody (id : Int) {b : Policy.Body} {now : Instant}
    (hsound : b.Sound) (hlegible : b.Legible) (hnow : now.Sortable) :
    (ofBody id b now).isReadable = true :=
  isReadable_iff.mpr ⟨_, reads_ofPolicy (p := ⟨id, b, now, now⟩) ⟨hsound, hlegible, hnow, hnow⟩⟩

/-- The switch of a row that cannot be read is not turned on by itself: the check before it ends the
call. -/
theorem Authoring.check_unreadable {s : Store} (hids : (s.policies.map (·.id)).Nodup)
    {r : PolicyRow} (hr : r ∈ s.policies) (hread : r.isReadable = false) :
    ∃ e, check s r.id = .error e := by
  -- a missing table is an error as well
  cases htable : s.schema.has .policies with
  | false =>
    have hget : s.getPolicy r.id = .error (.query "get_policy") := by
      simp [getPolicy, requires, htable, bind, Except.bind]
    exact ⟨_, by rw [check, hget]; rfl⟩
  | true =>
    cases hr' : r.read with
    | ok p =>
      rw [PolicyRow.isReadable_iff.mpr ⟨p, readPolicy_ok.mp hr'⟩] at hread
      cases hread
    | error e =>
      have hget : s.getPolicy r.id = .error e := by
        rw [getPolicy_eq htable, find_of_mem hids hr]
        change r.read.map some = _
        rw [hr']
        rfl
      rw [check, hget]
      dsimp only
      split <;> exact ⟨_, rfl⟩

/-- What a passed check says of the rows under the number. -/
theorem Authoring.readable_of_check {s : Store} (hids : (s.policies.map (·.id)).Nodup) {id : Int}
    (h : check s id = .ok ()) : ∀ r ∈ s.policies, r.id = id → r.isReadable = true := by
  rintro r hr rfl
  by_contra hread
  rw [Bool.not_eq_true] at hread
  obtain ⟨e, he⟩ := check_unreadable hids hr hread
  rw [he] at h
  cases h

theorem run_setEnabled_unreadable {d : Desk} (hids : (d.store.policies.map (·.id)).Nodup)
    {r : PolicyRow} (hr : r ∈ d.store.policies) (hread : r.isReadable = false) (su : Setup)
    (moments : Nat → Moment) (first : Nat) :
    ∃ e, Call.run su moments first (.authoring (.setEnabled r.id true)) d =
      (.authoring (.done (.error e)), d) := by
  obtain ⟨e, hcheck⟩ := Authoring.check_unreadable hids hr hread
  have hstep : Call.step su (moments first) d (.authoring (.setEnabled r.id true)) =
      (.authoring (.done (.error e)), d) := by
    simp only [Call.step, Authoring.step, if_true, hcheck]
  refine ⟨e, ?_⟩
  change Call.runFor su moments (2 + 1) first _ d = _
  rw [Call.runFor_succ, hstep]
  exact Call.runFor_of_isDone su moments 2 (first + 1) d rfl

/-- What a call may rely on when it writes a switch or a body, given the calls that were made. -/
def Call.Careful (calls : List Call) (s : Store) : Call → Prop
  | .authoring (.create draft) => draft.Legible
  | .authoring (.update id draft) => draft.Legible ∧ .authoring (.update id draft) ∈ calls
  | .authoring (.switch id true) => ∀ r ∈ s.policies, r.id = id → r.isReadable = true
  | _ => True

section Careful

variable {calls : List Call} {d : Desk} {c : Call} {m : Moment} (hc : c.Careful calls d.store)
  (hm : m.now.Sortable)

include hc hm

/-- A row that can be read can be read after every step. -/
theorem readable_step (su : Setup) {id : Int}
    (h : ∀ r ∈ d.store.policies, r.id = id → r.isReadable = true) :
    ∀ r ∈ (c.step su m d).2.store.policies, r.id = id → r.isReadable = true := by
  refine c.rows_step su m h ?_ ?_ ?_
  · rintro draft body rfl hbody -
    exact PolicyRow.isReadable_ofBody _ (Policy.Draft.sound_of_validate hbody)
      (Policy.Draft.Legible.body hc hbody) hm
  · -- as it can be read it tells when it was made, and that column is kept
    rintro id' draft body r rfl hbody - hr hid
    have hreadable := h r hr hid
    rcases PolicyRow.isReadable_update (r := r) (Policy.Draft.sound_of_validate hbody)
      (hc.1.body hbody) hm with hnow | hundated
    · exact hnow
    · obtain ⟨p, hp⟩ := PolicyRow.isReadable_iff.mp hreadable
      exact absurd hundated hp.dated
  · rintro id' enabled r rfl - hr hid
    exact PolicyRow.isReadable_switched (h r hr hid) enabled hm

/-- What others rely on they can rely on after the step. -/
theorem careful_others (su : Setup) {u : Call} (hu : u.Careful calls d.store) :
    u.Careful calls (c.step su m d).2.store := by
  -- of calls only those rely on the store that are about to turn a switch on
  cases u with
  | authoring a =>
    cases a with
    | switch id enabled =>
      cases enabled with
      | true => exact readable_step hc hm su hu
      | false => trivial
    | _ => exact hu
  | _ => trivial

end Careful

/-- A call that goes on may rely on what it needs: the switch is written only after a check. -/
theorem careful_step {calls : List Call} {d : Desk}
    (hids : (d.store.policies.map (·.id)).Nodup) (su : Setup) (m : Moment) (c : Call) :
    (c.step su m d).1.Careful calls (c.step su m d).2.store := by
  cases c with
  | review r => trivial
  | intake i => trivial
  | dryRun request => trivial
  | dryRunDone r => trivial
  | authoring a =>
    obtain ⟨a', s, hstep, hsteps⟩ := Authoring.steps m d a
    simp only [Call.step, hstep]
    have hwritten (id : Int) (answer : Except Store.Error Bool) :
        (Call.authoring (Authoring.afterWrite id answer)).Careful calls s :=
      Authoring.afterWrite_induction (P := fun a => (Call.authoring a).Careful calls s) trivial
        (fun _ => trivial) answer
    cases hsteps with
    | updated id draft body _ => exact hwritten id _
    | allowed id hcheck => exact Authoring.readable_of_check hids hcheck
    | switched id enabled => exact hwritten id _
    | _ => trivial

/-- What a row can be while calls go on: one that can be read, or one that was there under its number
and with its time from the start; and if it is on all the same, it was so from the start, or was
turned on with another body. -/
structure Store.PolicyRow.Accounted (start : List PolicyRow) (calls : List Call) (r : PolicyRow) :
    Prop where
  origin : r.isReadable = true ∨ ∃ u ∈ start, u.id = r.id ∧ u.created = r.created
  switch : r.isReadable = true ∨ r.isOn = false ∨ r ∈ start ∨ r.Relit start calls

theorem Store.PolicyRow.Accounted.of_readable {start : List PolicyRow} {calls : List Call}
    {r : PolicyRow} (h : r.isReadable = true) : r.Accounted start calls := ⟨.inl h, .inl h⟩

theorem accounted_rows {start : List PolicyRow} {calls : List Call} {d : Desk} {c : Call}
    {m : Moment} (hrows : ∀ r ∈ d.store.policies, r.Accounted start calls)
    (hc : c.Careful calls d.store) (hm : m.now.Sortable) (su : Setup) :
    ∀ r ∈ (c.step su m d).2.store.policies, r.Accounted start calls := by
  -- a row is new, or is written over, or is switched
  refine c.rows_step su m hrows ?_ ?_ ?_
  · rintro draft body rfl hbody
    exact .of_readable (PolicyRow.isReadable_ofBody _ (Policy.Draft.sound_of_validate hbody)
      (Policy.Draft.Legible.body hc hbody) hm)
  · rintro id draft body r rfl hbody hid hr
    rcases PolicyRow.isReadable_update (r := r) (Policy.Draft.sound_of_validate hbody)
      (hc.1.body hbody) hm with hreadable | hundated
    · exact .of_readable hreadable
    · -- number and time stay, so the row is as undated as it was, and was there from the start
      have horigin : ∃ u ∈ start, u.id = r.id ∧ u.created = r.created := by
        rcases (hrows r hr).origin with hreadable | horigin
        · obtain ⟨p, hp⟩ := PolicyRow.isReadable_iff.mp hreadable
          exact absurd hundated hp.dated
        · exact horigin
      refine ⟨.inr horigin, .inr ?_⟩
      have hon : (r.update body m.now).isOn = body.enabled := PolicyRow.isOn_ofBool rfl
      cases henabled : body.enabled with
      | false =>
        left
        rw [hon, henabled]
      | true =>
        refine .inr (.inr ⟨hundated, horigin, draft, body, ?_, hbody, henabled⟩)
        rw [show (r.update body m.now).id = id from hid]
        exact hc.2
  · rintro id enabled r rfl hid hr
    cases enabled with
    | true => exact .of_readable (PolicyRow.isReadable_switched (hc r hr hid) true hm)
    | false =>
      have hoff : (r.switched false m.now).isOn = false := PolicyRow.isOn_ofBool rfl
      rcases (hrows r hr).origin with hreadable | horigin
      · exact .of_readable (PolicyRow.isReadable_switched hreadable false hm)
      · exact ⟨.inr horigin, .inr (.inl hoff)⟩

/-- What holds while calls go on that began with the rows `start`. -/
structure Guarded (start : List PolicyRow) (calls : List Call) (t : Traffic) : Prop where
  ids : (t.desk.store.policies.map (·.id)).Nodup
  rows : ∀ r ∈ t.desk.store.policies, r.Accounted start calls
  careful : ∀ c ∈ t.calls, c.Careful calls t.desk.store

theorem guarded_start {d : Desk} {calls : List Call}
    (hids : (d.store.policies.map (·.id)).Nodup) (hstart : ∀ c ∈ calls, c.isStart = true)
    (hdrafts : ∀ c ∈ calls, ∀ draft, c.draft? = some draft → draft.Legible) :
    Guarded d.store.policies calls ⟨d, calls⟩ where
  ids := hids
  rows r hr := ⟨.inr ⟨r, hr, rfl, rfl⟩, .inr (.inr (.inl hr))⟩
  careful := by
    intro c hc
    have hdraft := hdrafts c hc
    have hbegun := hstart c hc
    cases c with
    | authoring a =>
      cases a with
      | create draft => exact hdraft draft rfl
      | update id draft => exact ⟨hdraft draft rfl, hc⟩
      | switch id enabled => cases hbegun
      | _ => trivial
    | _ => trivial

theorem guarded_step {start : List PolicyRow} {calls : List Call} {t : Traffic}
    (h : Guarded start calls t) (x : Turn) (hx : x.moment.now.Sortable) :
    Guarded start calls (t.step x) := by
  cases hget : t.calls[x.who]? with
  | none =>
    rw [step_of_none hget]
    exact h
  | some c =>
    have hc : c.Careful calls t.desk.store := h.careful c (List.mem_of_getElem? hget)
    rw [step_of_get hget]
    refine ⟨c.ids_step x.setup x.moment h.ids, accounted_rows h.rows hc hx x.setup, ?_⟩
    -- between the check and the switch others make steps, none of which spoils the row
    intro u hu
    rcases List.mem_or_eq_of_mem_set hu with hu | rfl
    · exact careful_others hc hx x.setup (h.careful u hu)
    · exact careful_step h.ids x.setup x.moment c

theorem guarded_run {start : List PolicyRow} {calls : List Call} {t : Traffic}
    (h : Guarded start calls t) {turns : List Turn}
    (hclock : ∀ x ∈ turns, x.moment.now.Sortable) : Guarded start calls (t.run turns) := by
  induction turns generalizing t with
  | nil => exact h
  | cons x turns ih =>
    have hstep := guarded_step h x (hclock x List.mem_cons_self)
    exact ih hstep fun y hy => hclock y (List.mem_cons_of_mem _ hy)

/-- Rows that cannot be read are by themselves, whatever is in them. Lists hold what can be read, in
order; calls on records and proposals do with the rows what they do without them; the switch of such
a row is not turned on. While calls of all kinds go on, a row that cannot be read and is on was so
from the start, or it never told when it was made and got a body that is on. -/
theorem unreadable_isolated {d : Desk} (htable : d.store.schema.has .policies = true)
    (hids : (d.store.policies.map (·.id)).Nodup) :
    (∀ enabledOnly, ∃ policies, d.store.listPolicies enabledOnly = .ok policies ∧
      (policies.Pairwise fun p q => p.key < q.key) ∧
      ∀ p, p ∈ policies ↔
        ∃ r ∈ d.store.policies, r.Reads p ∧ (enabledOnly = true → r.enabled = .integer 1)) ∧
    (∀ (calls : List Call) (turns : List Turn), (∀ c ∈ calls, c.onPolicies = false) →
      (⟨d.readable, calls⟩ : Traffic).run turns =
        ((⟨d, calls⟩ : Traffic).run turns).readable) ∧
    (∀ r ∈ d.store.policies, r.isReadable = false →
      ∀ (su : Setup) (moments : Nat → Moment) (first : Nat), ∃ e,
        Call.run su moments first (.authoring (.setEnabled r.id true)) d =
          (.authoring (.done (.error e)), d)) ∧
    (∀ (calls : List Call) (turns : List Turn), (∀ c ∈ calls, c.isStart = true) →
      (∀ c ∈ calls, ∀ draft, c.draft? = some draft → draft.Legible) →
      (∀ x ∈ turns, x.moment.now.Sortable) →
      ∀ r ∈ ((⟨d, calls⟩ : Traffic).run turns).desk.store.policies,
        r.isReadable = false → r.isOn = true →
          r ∈ d.store.policies ∨ r.Relit d.store.policies calls) := by
  refine ⟨?_, ?_, ?_, ?_⟩
  · intro enabledOnly
    have hlist := listPolicies_eq htable enabledOnly
    refine ⟨_, hlist, listed_strict hlist hids, fun p => ?_⟩
    rw [mem_listed hlist]
    have hrow (r : PolicyRow) (hr : r.Reads p) : r ∈ d.store.listedRows enabledOnly ↔
        r ∈ d.store.policies ∧ (enabledOnly = true → r.enabled = .integer 1) := by
      cases enabledOnly with
      | false => simp [listedRows]
      | true => simp [listedRows, isOn_of_reads hr]
    constructor
    · rintro ⟨r, hmem, hr⟩
      obtain ⟨hmem, hon⟩ := (hrow r hr).mp hmem
      exact ⟨r, hmem, hr, hon⟩
    · rintro ⟨r, hmem, hr, hon⟩
      exact ⟨r, (hrow r hr).mpr ⟨hmem, hon⟩, hr⟩
  · intro calls turns hcalls
    exact run_readable (t := ⟨d, calls⟩) hcalls hids turns
  · intro r hr hread su moments first
    exact run_setEnabled_unreadable hids hr hread su moments first
  · intro calls turns hstart hdrafts hclock r hr hread hon
    have hguarded := guarded_run (guarded_start hids hstart hdrafts) hclock
    rcases (hguarded.rows r hr).switch with h | h | h | h
    · rw [hread] at h
      cases h
    · rw [hon] at h
      cases h
    · exact .inl h
    · exact .inr h

/-- A draft on records with a category, for use in examples. -/
def categoryDraft (enabled : Bool) : Policy.Draft :=
  ⟨"", 0, enabled, .obj [("field", .str "category"), ("op", .str "exists")], "archive", .null, .one, ""⟩

/-- A desk with a policy that is on, and one that is off and lost the time of its making to someone
else. -/
def undatedDesk : Desk :=
  let t := (⟨.empty, [.authoring (.create (categoryDraft true)),
    .authoring (.create (categoryDraft false))]⟩ : Traffic).run [sampleTurn 0 0, sampleTurn 1 1]
  { t.desk with store := (t.desk.store.edit "policies" "2" "created_at" (some "oops")).2 }

theorem undatedDesk_rows :
    undatedDesk.store.policies.map (fun r => (r.id, r.isReadable, r.isOn)) =
      [(1, true, true), (2, false, false)] := by
  decide +kernel

theorem unreadable_isolated_sample :
    undatedDesk.store.schema.has .policies = true ∧
      (undatedDesk.store.policies.map (·.id)).Nodup ∧
      ∀ r ∈ undatedDesk.store.policies, r.isReadable = false →
        ∃ e, Call.run (sampleTurn 0 0).setup (fun n => (sampleTurn 0 n).moment) 2
          (.authoring (.setEnabled r.id true)) undatedDesk =
            (.authoring (.done (.error e)), undatedDesk) := by
  have htable : undatedDesk.store.schema.has .policies = true := by decide +kernel
  have hids : (undatedDesk.store.policies.map (·.id)).Nodup := by decide +kernel
  obtain ⟨-, -, hswitch, -⟩ := unreadable_isolated htable hids
  refine ⟨htable, hids, fun r hr hread => ?_⟩
  exact hswitch r hr hread (sampleTurn 0 0).setup (fun n => (sampleTurn 0 n).moment) 2

/-- What a call about policies says when it was refused. -/
def Call.complaint? : Call → Option String
  | .authoring (.done (.error e)) => some e.message
  | _ => none

/-- A body that is on turns the second policy on; its row cannot be read before and after, and the
call ends with an error. -/
theorem update_lights_unreadable :
    let after := Call.run (sampleTurn 0 0).setup (fun n => (sampleTurn 0 n).moment) 2
      (.authoring (.update 2 (categoryDraft true))) undatedDesk
    undatedDesk.store.policies.map (fun r => (r.id, r.isReadable, r.isOn)) =
        [(1, true, true), (2, false, false)] ∧
      after.2.store.policies.map (fun r => (r.id, r.isReadable, r.isOn)) =
        [(1, true, true), (2, false, true)] ∧
      after.1.complaint? =
        some "Database error: Serialization error: bad timestamp 'oops'" := by
  exact ⟨undatedDesk_rows, by decide +kernel, by decide +kernel⟩

end Signoff
