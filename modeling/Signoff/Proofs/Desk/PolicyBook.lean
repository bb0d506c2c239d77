import Mathlib
import Signoff.Proofs.Desk.Creation
import Signoff.Proofs.Desk.PolicyTable

/-!
The table of policies as a book: what each number stands for, and the last number that was given out.
Calls about policies answer as the book does, whatever is asked, in whichever order, and though the
file is closed and opened in between. The rows hold text, and come in the order of the table; that
they are read as what was written, and come in the order of the policies, is what this rests on.
-/

namespace Signoff

open Store

/-- Something that is done about policies: a call, or opening the file again. -/
inductive Dealing where
  | create (draft : Policy.Draft)
  | update (id : Int) (draft : Policy.Draft)
  | setEnabled (id : Int) (enabled : Bool)
  | delete (id : Int)
  | get (id : Int)
  | list (enabledOnly : Bool)
  | reopen

namespace Dealing

/-- What it comes to. -/
inductive Answer where
  | policy (p : Policy)
  | removed
  | policies (ps : List Policy)
  | opened
  | refused (e : Authoring.Error)

/-- The answer to a call that comes to a policy or is refused. -/
def Answer.ofResult : Authoring.Result → Answer
  | .ok p => .policy p
  | .error e => .refused e

/-- What a call that has ended answered. -/
def Answer.ofCall? : Call → Option Answer
  | .authoring (.done r) => some (.ofResult r)
  | .authoring .deleted => some .removed
  | _ => none

/-- A call from its first step to its last. -/
def call (su : Setup) (moments : Nat → Moment) (d : Desk) (a : Authoring) :
    Option Answer × Desk :=
  let (c, d) := Call.run su moments 0 (.authoring a) d
  (Answer.ofCall? c, d)

/-- What something is answered, and the desk after it. -/
def perform (su : Setup) (moments : Nat → Moment) (d : Desk) : Dealing → Option Answer × Desk
  | .create draft => call su moments d (.create draft)
  | .update id draft => call su moments d (.update id draft)
  | .setEnabled id enabled => call su moments d (.setEnabled id enabled)
  | .delete id => call su moments d (.delete id)
  | .get id => (some (.ofResult (Authoring.found d.store id)), d)
  | .list enabledOnly =>
    match Authoring.list d.store enabledOnly with
    | .ok ps => (some (.policies ps), d)
    | .error e => (some (.refused e), d)
  | .reopen =>
    match Store.ofMedium (.database d.store) with
    | .ok s => (some .opened, { d with store := s })
    | .error e => (some (.refused (.store e)), d)

/-- The number that is given out with an answer. -/
def assigned? : Dealing → Option Answer → Option Int
  | .create _, some (.policy p) => some p.id
  | _, _ => none

/-- The draft that is brought. -/
def draft? : Dealing → Option Policy.Draft
  | .create draft | .update _ draft => some draft
  | _ => none

end Dealing

/-- A desk, and all numbers that were given out at it. -/
structure Dealings where
  desk : Desk
  assigned : List Int

namespace Dealings

def step (su : Setup) (l : Dealings) (x : Dealing × (Nat → Moment)) : Dealings :=
  let (answer, d) := x.1.perform su x.2 l.desk
  ⟨d, l.assigned ++ (x.1.assigned? answer).toList⟩

/-- One thing after the other, each at its moments, on a desk with a fresh store. -/
def run (su : Setup) (session : List (Dealing × (Nat → Moment))) : Dealings :=
  session.foldl (step su) ⟨.empty, []⟩

end Dealings

/-! ### The book -/

/-- What stands in a book under a number. -/
structure Book.Entry where
  body : Policy.Body
  created : Instant
  updated : Instant

/-- Policies by their numbers, and the last number that was given out. -/
structure Book where
  entry : Int → Option Book.Entry
  last : Int

namespace Book

/-- The policy that an entry is under its number. -/
def Entry.policy (e : Entry) (id : Int) : Policy := ⟨id, e.body, e.created, e.updated⟩

def empty : Book := ⟨fun _ => none, 0⟩

/-- The book with one entry more, under the next number. -/
def add (b : Book) (body : Policy.Body) (now : Instant) : Book :=
  ⟨Function.update b.entry (b.last + 1) (some ⟨body, now, now⟩), b.last + 1⟩

/-- The book with the entry under one number changed, if there is one. -/
def alter (b : Book) (id : Int) (f : Entry → Entry) : Book :=
  { b with entry := Function.update b.entry id ((b.entry id).map f) }

/-- The book without what stood under a number. -/
def remove (b : Book) (id : Int) : Book := { b with entry := Function.update b.entry id none }

section Entry

variable (b : Book) {id other : Int}

theorem add_self (body : Policy.Body) (now : Instant) :
    (b.add body now).entry (b.last + 1) = some ⟨body, now, now⟩ := Function.update_self ..

theorem add_of_ne (body : Policy.Body) (now : Instant) (h : id ≠ b.last + 1) :
    (b.add body now).entry id = b.entry id := Function.update_of_ne h ..

theorem alter_self (id : Int) (f : Entry → Entry) :
    (b.alter id f).entry id = (b.entry id).map f := Function.update_self ..

theorem alter_of_ne (f : Entry → Entry) (h : other ≠ id) :
    (b.alter id f).entry other = b.entry other := Function.update_of_ne h ..

theorem alter_of_none (f : Entry → Entry) (h : b.entry id = none) : b.alter id f = b := by
  rw [alter, h, Option.map_none, ← h, Function.update_eq_self]

theorem remove_self (id : Int) : (b.remove id).entry id = none := Function.update_self ..

theorem remove_of_ne (h : other ≠ id) : (b.remove id).entry other = b.entry other :=
  Function.update_of_ne h ..

theorem remove_of_none (h : b.entry id = none) : b.remove id = b := by
  rw [remove, ← h, Function.update_eq_self]

end Entry

/-- The book after something was done at given moments. -/
def after (b : Book) (moments : Nat → Moment) : Dealing → Book
  | .create draft =>
    match draft.validate with
    | .ok body => if b.last < maxPolicyId then b.add body (moments 0).now else b
    | .error _ => b
  | .update id draft =>
    match draft.validate with
    | .ok body => b.alter id fun e => { e with body := body, updated := (moments 0).now }
    | .error _ => b
  | .setEnabled id enabled =>
    b.alter id fun e => { e with body := e.body.switched enabled, updated := (moments 1).now }
  | .delete id => b.remove id
  | .get _ | .list _ | .reopen => b

end Book

/-- Two policies are the same, their confidence as a number: the two zeros are equal. -/
structure Policy.Agrees (p q : Policy) : Prop where
  confidence : p.body.confidence.same q.body.confidence = true
  rest : p = { q with body := { q.body with confidence := p.body.confidence } }

namespace Book

/-- The answer tells what stands under a number. -/
def Shows (b : Book) (id : Int) (answer : Dealing.Answer) : Prop :=
  match b.entry id with
  | some e => ∃ p, answer = .policy p ∧ p.Agrees (e.policy id)
  | none => answer = .refused (.notFound id)

/-- A list is that of all that is in the book, in order. -/
structure Lists (b : Book) (ps : List Policy) : Prop where
  sorted : ps.Pairwise fun p q => p.key < q.key
  sound : ∀ p ∈ ps, ∃ e, b.entry p.id = some e ∧ p.Agrees (e.policy p.id)
  complete : ∀ id, b.entry id ≠ none → ∃ p ∈ ps, p.id = id

/-- What the book answers when something is done at given moments. -/
def Answers (b : Book) (moments : Nat → Moment) (x : Dealing) (answer : Dealing.Answer) : Prop :=
  match x with
  | .create draft =>
    match draft.validate with
    | .error f => answer = .refused (.flawed f)
    | .ok body =>
      if b.last < maxPolicyId then
        answer = .policy ⟨b.last + 1, body, (moments 0).now, (moments 0).now⟩
      else answer = .refused (.store (.query "insert_policy"))
  | .update id draft =>
    match draft.validate with
    | .error f => answer = .refused (.flawed f)
    | .ok _ => (b.after moments x).Shows id answer
  | .setEnabled id _ => (b.after moments x).Shows id answer
  | .delete id =>
    match b.entry id with
    | some _ => answer = .removed
    | none => answer = .refused (.notFound id)
  | .get id => b.Shows id answer
  | .list enabledOnly =>
    ∃ ps, b.Lists ps ∧ answer = .policies (if enabledOnly then Policy.inForce ps else ps)
  | .reopen => answer = .opened

end Book

theorem Double.same_unsigned (x : Double) : x.unsigned.same x = true :=
  same_iff.mpr (toInt_unsigned x)

theorem Policy.agrees_unsigned (p : Policy) : p.unsigned.Agrees p :=
  ⟨Double.same_unsigned _, rfl⟩

/-! ### The rows of the book -/

/-- A store whose rows are those of the entries in a book. -/
structure Store.Represents (s : Store) (b : Book) : Prop where
  schema : s.schema = Store.empty.schema
  last : s.lastPolicy = b.last
  ids : (s.policies.map (·.id)).Nodup
  bounded : ∀ r ∈ s.policies, r.id ≤ b.last
  rows : ∀ id, s.policies.find? (·.id == id) =
    (b.entry id).map fun e => PolicyRow.ofPolicy (e.policy id)
  storable : ∀ id e, b.entry id = some e → (e.policy id).Storable

theorem represents_empty : Store.empty.Represents Book.empty where
  schema := rfl
  last := rfl
  ids := List.nodup_nil
  bounded := by simp [Store.empty]
  rows := fun _ => rfl
  storable := by
    intro id e h
    cases h

namespace Store

section Represents

variable {s : Store} {b : Book} (h : s.Represents b)

include h

theorem Represents.table : s.schema.has .policies = true := by
  rw [h.schema]
  decide

theorem Represents.highest : s.highestPolicy = b.last := by
  rw [highestPolicy, h.last]
  apply le_antisymm
  · apply foldl_max_le_iff.mpr ⟨le_rfl, ?_⟩
    intro k hk
    obtain ⟨r, hr, rfl⟩ := List.mem_map.mp hk
    exact h.bounded r hr
  · exact (foldl_max_le_iff.mp le_rfl).1

/-- A row is that of the entry under its number. -/
theorem Represents.entry_of_mem {r : PolicyRow} (hr : r ∈ s.policies) :
    ∃ e, b.entry r.id = some e ∧ r = .ofPolicy (e.policy r.id) := by
  have hfind := find_of_mem h.ids hr
  rw [h.rows] at hfind
  obtain ⟨e, he, hrow⟩ := Option.map_eq_some_iff.mp hfind
  exact ⟨e, he, hrow.symm⟩

theorem Represents.mem_of_entry {id : Int} {e : Book.Entry} (he : b.entry id = some e) :
    PolicyRow.ofPolicy (e.policy id) ∈ s.policies := by
  have hfind := h.rows id
  rw [he, Option.map_some] at hfind
  exact List.mem_of_find?_eq_some hfind

/-- A number that was not given out yet stands for nothing. -/
theorem Represents.entry_of_lt {id : Int} (hid : b.last < id) : b.entry id = none := by
  cases he : b.entry id with
  | none => rfl
  | some e =>
    have hle := h.bounded _ (h.mem_of_entry he)
    change id ≤ b.last at hle
    omega

theorem Represents.any_eq (id : Int) :
    s.policies.any (·.id == id) = (b.entry id).isSome := by
  have hany : s.policies.any (·.id == id) = (s.policies.find? (·.id == id)).isSome := by
    rw [Bool.eq_iff_iff, List.any_eq_true, List.find?_isSome]
  rw [hany, h.rows, Option.isSome_map]

theorem Represents.getPolicy (id : Int) :
    s.getPolicy id = .ok ((b.entry id).map fun e => (e.policy id).unsigned) := by
  rw [getPolicy_eq h.table, h.rows]
  cases he : b.entry id with
  | none => rfl
  | some e =>
    have hread : (PolicyRow.ofPolicy (e.policy id)).read = .ok (e.policy id).unsigned :=
      readPolicy_ok.mpr (reads_ofPolicy (h.storable id e he))
    change (PolicyRow.ofPolicy (e.policy id)).read.map some = _
    rw [hread]
    rfl

/-- A new row under the next number. -/
theorem Represents.enlarged {body : Policy.Body} {now : Instant} (hsound : body.Sound)
    (hlegible : body.Legible) (hnow : now.Sortable) :
    (s.enlarged body now).Represents (b.add body now) := by
  have hnew : (PolicyRow.ofBody (s.highestPolicy + 1) body now).id = b.last + 1 := by
    change s.highestPolicy + 1 = _
    rw [h.highest]
  refine ⟨h.schema, ?_, ?_, ?_, ?_, ?_⟩
  · change s.highestPolicy + 1 = b.last + 1
    rw [h.highest]
  · rw [Store.enlarged, List.map_append, List.nodup_append]
    refine ⟨h.ids, List.nodup_singleton _, ?_⟩
    intro n hn k hk
    obtain ⟨r, hr, rfl⟩ := List.mem_map.mp hn
    rw [List.map_singleton, List.mem_singleton, hnew] at hk
    have hle := h.bounded r hr
    omega
  · intro r hr
    change r.id ≤ b.last + 1
    rcases List.mem_append.mp hr with hr | hr
    · have hle := h.bounded r hr
      omega
    · rw [List.mem_singleton.mp hr, hnew]
  · intro id
    rw [Store.enlarged, List.find?_append, h.rows, List.find?_singleton, hnew]
    -- the next number stood for nothing, so the first row under it is the new one
    by_cases hid : id = b.last + 1
    · rw [hid, h.entry_of_lt (by omega), b.add_self, h.highest]
      simp [PolicyRow.ofPolicy, Book.Entry.policy, PolicyRow.ofBody]
    · have hne : (b.last + 1 == id) = false := by simpa using Ne.symm hid
      rw [b.add_of_ne body now hid, hne]
      simp
  · intro id e he
    by_cases hid : id = b.last + 1
    · rw [hid, b.add_self, Option.some.injEq] at he
      rw [← he]
      exact ⟨hsound, hlegible, hnow, hnow⟩
    · rw [b.add_of_ne body now hid] at he
      exact h.storable id e he

/-- The row under a number rewritten as its entry is changed. -/
theorem Represents.rewritten {id : Int} {f : PolicyRow → PolicyRow} {g : Book.Entry → Book.Entry}
    (hf : ∀ r, (f r).id = r.id)
    (hrow : ∀ e, f (.ofPolicy (e.policy id)) = .ofPolicy ((g e).policy id))
    (hstorable : ∀ e, b.entry id = some e → ((g e).policy id).Storable) :
    (s.rewritten id f).Represents (b.alter id g) := by
  have hids : (s.rewritten id f).policies.map (·.id) = s.policies.map (·.id) :=
    ids_rewritten hf id s.policies
  refine ⟨h.schema, h.last, hids ▸ h.ids, ?_, ?_, ?_⟩
  · intro r hr
    obtain ⟨u, hu, rfl⟩ := List.mem_map.mp hr
    rw [id_rewritten hf]
    exact h.bounded u hu
  -- row by row: the one with the number is rewritten in both, and any other is the same in both
  · intro other
    rw [Store.rewritten, find_map hf, h.rows]
    by_cases hother : other = id
    · rw [hother, b.alter_self, Option.map_map, Option.map_map]
      congr 1
      funext e
      exact (if_pos rfl).trans (hrow e)
    · rw [b.alter_of_ne g hother, Option.map_map]
      congr 1
      funext e
      exact if_neg hother
  · intro other e he
    by_cases hother : other = id
    · rw [hother, b.alter_self] at he
      obtain ⟨e', he', rfl⟩ := Option.map_eq_some_iff.mp he
      rw [hother]
      exact hstorable e' he'
    · rw [b.alter_of_ne g hother] at he
      exact h.storable other e he

theorem Represents.updated (id : Int) {body : Policy.Body} {now : Instant} (hsound : body.Sound)
    (hlegible : body.Legible) (hnow : now.Sortable) :
    (s.rewritten id (·.update body now)).Represents
      (b.alter id fun e => { e with body := body, updated := now }) := by
  refine h.rewritten (fun _ => rfl) (fun _ => rfl) ?_
  intro e he
  exact ⟨hsound, hlegible, (h.storable id e he).created, hnow⟩

theorem Represents.switched (id : Int) (enabled : Bool) {now : Instant} (hnow : now.Sortable) :
    (s.rewritten id (·.switched enabled now)).Represents
      (b.alter id fun e => { e with body := e.body.switched enabled, updated := now }) := by
  refine h.rewritten (fun _ => rfl) (fun _ => rfl) ?_
  intro e he
  have hstorable := h.storable id e he
  exact ⟨hstorable.sound.switched enabled, ⟨hstorable.legible.condition, hstorable.legible.params⟩,
    hstorable.created, hnow⟩

/-- The row under a number taken out, and its entry with it. -/
theorem Represents.removed (id : Int) :
    ({ s with policies := s.policies.filter (·.id != id) } : Store).Represents (b.remove id) := by
  refine ⟨h.schema, h.last, ?_, ?_, ?_, ?_⟩
  · exact h.ids.sublist (List.filter_sublist.map _)
  · exact fun r hr => h.bounded r (List.mem_of_mem_filter hr)
  · intro other
    rw [List.find?_filter]
    by_cases hother : other = id
    · rw [hother, b.remove_self, Option.map_none, List.find?_eq_none]
      intro r _
      simp
    · rw [b.remove_of_ne hother, ← h.rows]
      -- under another number nothing was taken out
      refine congrArg (fun q => s.policies.find? q) ?_
      funext r
      by_cases hr : r.id = other
      · simp [hr, hother]
      · simp [hr]
  · intro other e he
    by_cases hother : other = id
    · rw [hother, b.remove_self] at he
      cases he
    · rw [b.remove_of_ne hother] at he
      exact h.storable other e he

/-- No row has a number that stands for nothing. -/
theorem Represents.ne_of_none {id : Int} (hid : b.entry id = none) :
    ∀ r ∈ s.policies, r.id ≠ id := by
  rintro r hr rfl
  obtain ⟨e, he, -⟩ := h.entry_of_mem hr
  rw [hid] at he
  cases he

theorem Represents.rewritten_of_none {id : Int} (hid : b.entry id = none)
    (f : PolicyRow → PolicyRow) : s.rewritten id f = s := by
  have hrows : s.policies.map (fun r => if r.id = id then f r else r) = s.policies.map fun r => r :=
    List.map_congr_left fun r hr => if_neg (h.ne_of_none hid r hr)
  rw [Store.rewritten, hrows, List.map_id']

theorem Represents.requires (call : String) : s.requires .policies call = .ok () := by
  simp only [Store.requires, h.table, if_true]

theorem Represents.changePolicy (call : String) (id : Int) (f : PolicyRow → PolicyRow) :
    s.changePolicy call id f = (.ok (b.entry id).isSome, s.rewritten id f) := by
  simp only [Store.changePolicy, h.requires, h.any_eq]
  rfl

theorem Represents.deletePolicy (id : Int) :
    s.deletePolicy id = (.ok (b.entry id).isSome,
      { s with policies := s.policies.filter (·.id != id) }) := by
  simp only [Store.deletePolicy, h.requires, h.any_eq]

theorem Represents.filter_of_none {id : Int} (hid : b.entry id = none) :
    s.policies.filter (·.id != id) = s.policies := by
  rw [List.filter_eq_self]
  intro r hr
  exact bne_iff_ne.mpr (h.ne_of_none hid r hr)

theorem Represents.insertPolicy {body : Policy.Body} {now : Instant} (hnow : now.Sortable) :
    s.insertPolicy body now =
      if b.last < maxPolicyId then (.ok ⟨b.last + 1, body, now, now⟩, s.enlarged body now)
      else (.error (.query "insert_policy"), s) := by
  have hstamp : readInstant now.sortableText = .ok now :=
    readInstant_ok.mpr (Instant.ofRfc3339?_sortableText hnow)
  simp only [Store.insertPolicy, h.requires, h.highest]
  by_cases hroom : b.last < maxPolicyId
  · simp only [not_le.mpr hroom, hroom, if_true, if_false, hstamp, Store.enlarged, h.highest]
    rfl
  · simp only [not_lt.mp hroom, hroom, if_true, if_false]

theorem Represents.found (id : Int) :
    Authoring.found s id =
      match b.entry id with
      | some e => .ok (e.policy id).unsigned
      | none => .error (.notFound id) := by
  rw [Authoring.found, h.getPolicy]
  cases b.entry id <;> rfl

/-- What stands under a number passes the check before it is switched on. -/
theorem Represents.check (id : Int) :
    Authoring.check s id =
      match b.entry id with
      | some _ => .ok ()
      | none => .error (.notFound id) := by
  rw [Authoring.check, h.getPolicy]
  cases he : b.entry id with
  | none => rfl
  | some e =>
    have hsound : (e.policy id).unsigned.body.Sound := (h.storable id e he).sound.unsigned
    simp only [Option.map_some]
    rw [show (Policy.Draft.ofBody (e.policy id).unsigned.body).validate = .ok _ from hsound]

/-- The table lists what is in the book. -/
theorem Represents.lists {ps : List Policy} (hlist : s.listPolicies false = .ok ps) :
    b.Lists ps where
  sorted := listed_strict hlist h.ids
  sound := by
    intro p hp
    obtain ⟨r, hr, hreads⟩ := (mem_listed hlist).mp hp
    obtain ⟨e, he, hrow⟩ := h.entry_of_mem hr
    have hid : r.id = p.id := hreads.id.symm
    rw [hid] at he hrow
    -- the row was written for its entry, and rows read as one policy only
    rw [hrow] at hreads
    refine ⟨e, he, ?_⟩
    rw [hreads.unique (reads_ofPolicy (h.storable p.id e he))]
    exact Policy.agrees_unsigned _
  complete := by
    intro id hid
    obtain ⟨e, he⟩ := Option.ne_none_iff_exists'.mp hid
    have hreads := reads_ofPolicy (h.storable id e he)
    exact ⟨_, (mem_listed hlist).mpr ⟨_, h.mem_of_entry he, hreads⟩, rfl⟩

/-- The list of what is on is what is on of the list, in the order in which policies are tried. -/
theorem Represents.listPolicies_true {ps : List Policy} (hlist : s.listPolicies false = .ok ps) :
    s.listPolicies true = .ok (Policy.inForce ps) := by
  have hon := listPolicies_eq h.table true
  have hids : (ps.map (·.id)).Nodup := by
    have hperm := (listed_perm hlist).map (·.id)
    exact hperm.nodup_iff.mpr (h.ids.sublist (ids_sublist s.policies))
  rw [hon, Except.ok.injEq]
  -- the table and the policies are put in one order, and no two have one place in it
  apply Decision.eq_of_mem_iff (listed_strict hon h.ids) (Policy.inForce_pairwise hids)
  intro p
  rw [mem_listed hon, Policy.mem_inForce, mem_listed hlist]
  -- a switch that was written is one or nought
  have hswitch {r : PolicyRow} (hr : r ∈ s.policies) (hreads : r.Reads p) :
      r.isOn = p.body.enabled := by
    obtain ⟨e, he, hrow⟩ := h.entry_of_mem hr
    have hp : p = (e.policy r.id).unsigned := by
      rw [hrow] at hreads
      exact hreads.unique (reads_ofPolicy (h.storable r.id e he))
    rw [hrow, hp]
    exact PolicyRow.isOn_ofBool rfl
  constructor
  · rintro ⟨r, hr, hreads⟩
    obtain ⟨hr, hon⟩ := List.mem_filter.mp hr
    exact ⟨⟨r, hr, hreads⟩, (hswitch hr hreads).symm.trans hon⟩
  · rintro ⟨⟨r, hr, hreads⟩, henabled⟩
    exact ⟨r, List.mem_filter.mpr ⟨hr, (hswitch hr hreads).trans henabled⟩, hreads⟩

theorem Represents.reopened : Store.ofMedium (.database s) = .ok s := by
  have hmigrate : Store.empty.schema.migrate = (Store.empty.schema, .ok ()) := by decide +kernel
  have hsame : s.migrate = (.ok (), s) := by
    rw [migrate, h.schema, hmigrate, ← h.schema]
  rw [Store.ofMedium, hsame]

end Represents

end Store
/-! ### One thing after the other -/

/-- What something was answered, and the desk after it, is what the book has: there is an answer, it
is that of the book, and with a refusal nothing is different. -/
structure Book.Settles (b : Book) (moments : Nat → Moment) (x : Dealing) (d : Desk)
    (r : Option Dealing.Answer × Desk) : Prop where
  answered : ∃ answer, r.1 = some answer ∧ b.Answers moments x answer ∧
    ∀ e, answer = .refused e → b.after moments x = b ∧ r.2 = d
  represents : r.2.store.Represents (b.after moments x)

namespace Dealing

variable {su : Setup} {moments : Nat → Moment} {d : Desk} {b : Book}

/-- Something that leaves desk and book as they are. -/
theorem settles_unchanged {x : Dealing} {answer : Answer} (h : d.store.Represents b)
    (hafter : b.after moments x = b) (hanswer : b.Answers moments x answer) :
    b.Settles moments x d (some answer, d) := by
  refine ⟨⟨answer, rfl, hanswer, fun _ _ => ⟨hafter, rfl⟩⟩, ?_⟩
  rw [hafter]
  exact h

/-- What is found under a number is what stands there in the book. -/
theorem shows_found {s : Store} (h : s.Represents b) (id : Int) :
    b.Shows id (.ofResult (Authoring.found s id)) := by
  rw [Book.Shows, h.found]
  cases b.entry id with
  | none => rfl
  | some e => exact ⟨_, rfl, Policy.agrees_unsigned _⟩

theorem entry_of_refused {s : Store} (h : s.Represents b) {id : Int} {e : Authoring.Error}
    (he : Answer.ofResult (Authoring.found s id) = .refused e) : b.entry id = none := by
  rw [h.found] at he
  cases hentry : b.entry id with
  | none => rfl
  | some entry =>
    rw [hentry] at he
    cases he

/-- After a row was rewritten it is looked at again; where there was none, that is the answer. -/
theorem runFor_afterWrite {id : Int} {f : PolicyRow → PolicyRow} (h : d.store.Represents b)
    (n first : Nat) :
    Call.runFor su moments (n + 1) first
        (.authoring (Authoring.afterWrite id (.ok (b.entry id).isSome)))
        { d with store := d.store.rewritten id f } =
      (.authoring (.done (Authoring.found (d.store.rewritten id f) id)),
        { d with store := d.store.rewritten id f }) := by
  have hdone (r : Authoring.Result) (n first : Nat) (d : Desk) :
      Call.runFor su moments n first (.authoring (.done r)) d = (.authoring (.done r), d) :=
    Call.runFor_of_isDone su moments n first d rfl
  cases he : b.entry id with
  | none =>
    have hfound : Authoring.found d.store id = .error (.notFound id) := by
      rw [h.found, he]
    rw [h.rewritten_of_none he, hfound]
    exact hdone _ _ _ _
  | some e =>
    rw [Option.isSome_some, Authoring.afterWrite, Call.runFor_succ]
    exact hdone _ _ _ _

/-- A row that was rewritten as its entry: the answer is what stands in the book then. -/
theorem settles_of_change {id : Int} {f : PolicyRow → PolicyRow} {g : Book.Entry → Book.Entry}
    {x : Dealing} (h : d.store.Represents b) (h' : (d.store.rewritten id f).Represents (b.alter id g))
    (hafter : b.after moments x = b.alter id g)
    (hanswers : ∀ answer, (b.alter id g).Shows id answer → b.Answers moments x answer) :
    b.Settles moments x d
      (some (.ofResult (Authoring.found (d.store.rewritten id f) id)),
        { d with store := d.store.rewritten id f }) := by
  refine ⟨⟨_, rfl, hanswers _ (shows_found h' id), ?_⟩, hafter ▸ h'⟩
  intro e he
  -- with a refusal there is no entry after the change, so there was none before it
  have hafterNone := entry_of_refused h' he
  rw [b.alter_self, Option.map_eq_none_iff] at hafterNone
  rw [hafter]
  refine ⟨b.alter_of_none g hafterNone, ?_⟩
  rw [h.rewritten_of_none hafterNone]

theorem settles_create (h : d.store.Represents b) (hclock : ∀ n, (moments n).now.Sortable)
    {draft : Policy.Draft} (hdraft : draft.Legible) :
    b.Settles moments (.create draft) d (perform su moments d (.create draft)) := by
  have hrun : Call.run su moments 0 (.authoring (.create draft)) d =
      Call.step su (moments 0) d (.authoring (.create draft)) := rfl
  rw [perform, call, hrun, Call.step, Authoring.step]
  cases hbody : draft.validate with
  | error e =>
    have hafter : b.after moments (.create draft) = b := by simp only [Book.after, hbody]
    apply settles_unchanged h hafter
    simp only [Book.Answers, hbody]
    rfl
  | ok body =>
    simp only [Desk.on, h.insertPolicy (hclock 0)]
    -- numbers are never used again, so that they can run out
    by_cases hroom : b.last < maxPolicyId
    · have hafter : b.after moments (.create draft) = b.add body (moments 0).now := by
        simp only [Book.after, hbody, hroom, if_true]
      have henlarged := h.enlarged (Policy.Draft.sound_of_validate hbody) (hdraft.body hbody)
        (hclock 0)
      rw [if_pos hroom]
      refine ⟨⟨_, rfl, ?_, ?_⟩, hafter ▸ henlarged⟩
      · simp only [Book.Answers, hbody, hroom, if_true]
        rfl
      · rintro e ⟨⟩
    · have hafter : b.after moments (.create draft) = b := by
        simp only [Book.after, hbody, hroom, if_false]
      rw [if_neg hroom]
      apply settles_unchanged h hafter
      simp only [Book.Answers, hbody, hroom, if_false]
      rfl

/-- A draft that passes is put into the row, which is then looked at. -/
theorem perform_update (h : d.store.Represents b) (id : Int) {draft : Policy.Draft}
    {body : Policy.Body} (hbody : draft.validate = .ok body) :
    perform su moments d (.update id draft) =
      (some (.ofResult (Authoring.found (d.store.rewritten id (·.update body (moments 0).now)) id)),
        { d with store := d.store.rewritten id (·.update body (moments 0).now) }) := by
  have hrun : Call.run su moments 0 (.authoring (.update id draft)) d =
      Call.runFor su moments (1 + 1) 0 (.authoring (.update id draft)) d := rfl
  rw [perform, call, hrun, Call.runFor_succ, Call.step, Authoring.step]
  simp only [hbody, Desk.on, Store.writeBody, h.changePolicy]
  rw [runFor_afterWrite h]
  rfl

/-- The switch is put into a row, which is then looked at; before a row is switched on it is
checked, and it passes. -/
theorem perform_setEnabled (h : d.store.Represents b) (id : Int) {enabled : Bool}
    (hthere : enabled = true → b.entry id ≠ none) :
    perform su moments d (.setEnabled id enabled) =
      (some (.ofResult (Authoring.found
        (d.store.rewritten id (·.switched enabled (moments 1).now)) id)),
        { d with store := d.store.rewritten id (·.switched enabled (moments 1).now) }) := by
  have hrun : Call.run su moments 0 (.authoring (.setEnabled id enabled)) d =
      Call.runFor su moments (1 + 1 + 1) 0 (.authoring (.setEnabled id enabled)) d := rfl
  have hfirst : Call.step su (moments 0) d (.authoring (.setEnabled id enabled)) =
      (.authoring (.switch id enabled), d) := by
    cases enabled with
    | false => rfl
    | true =>
      obtain ⟨e, he⟩ := Option.ne_none_iff_exists'.mp (hthere rfl)
      rw [Call.step, Authoring.step, if_pos rfl, h.check, he]
  have hswitch : Call.runFor su moments (1 + 1) 1 (.authoring (.switch id enabled)) d =
      (.authoring (.done (Authoring.found
        (d.store.rewritten id (·.switched enabled (moments 1).now)) id)),
        { d with store := d.store.rewritten id (·.switched enabled (moments 1).now) }) := by
    rw [Call.runFor_succ, Call.step, Authoring.step]
    simp only [Desk.on, Store.writeEnabled, h.changePolicy]
    exact runFor_afterWrite h 0 2
  rw [perform, call, hrun, Call.runFor_succ, hfirst]
  simp only
  rw [hswitch]
  rfl

theorem settles_update (h : d.store.Represents b) (hclock : ∀ n, (moments n).now.Sortable)
    (id : Int) {draft : Policy.Draft} (hdraft : draft.Legible) :
    b.Settles moments (.update id draft) d (perform su moments d (.update id draft)) := by
  cases hbody : draft.validate with
  | error e =>
    have hrun : Call.run su moments 0 (.authoring (.update id draft)) d =
        Call.runFor su moments (1 + 1) 0 (.authoring (.update id draft)) d := rfl
    have hafter : b.after moments (.update id draft) = b := by simp only [Book.after, hbody]
    rw [perform, call, hrun, Call.runFor_succ, Call.step, Authoring.step, hbody]
    apply settles_unchanged h hafter
    simp only [Book.Answers, hbody]
    rfl
  | ok body =>
    rw [perform_update h id hbody]
    apply settles_of_change h
      (h.updated id (Policy.Draft.sound_of_validate hbody) (hdraft.body hbody) (hclock 0))
    · simp only [Book.after, hbody]
    · intro answer hshows
      simp only [Book.Answers, Book.after, hbody]
      exact hshows

theorem settles_setEnabled (h : d.store.Represents b) (hclock : ∀ n, (moments n).now.Sortable)
    (id : Int) (enabled : Bool) :
    b.Settles moments (.setEnabled id enabled) d
      (perform su moments d (.setEnabled id enabled)) := by
  by_cases hthere : enabled = true → b.entry id ≠ none
  · rw [perform_setEnabled h id hthere]
    exact settles_of_change h (h.switched id enabled (hclock 1)) rfl fun _ h => h
  · -- before it is turned on, what stands there is looked at, and there is nothing
    obtain ⟨rfl, he⟩ : enabled = true ∧ b.entry id = none := by simpa using hthere
    have hrun : Call.run su moments 0 (.authoring (.setEnabled id true)) d =
        Call.runFor su moments (1 + 1 + 1) 0 (.authoring (.setEnabled id true)) d := rfl
    have hafter : b.after moments (.setEnabled id true) = b := b.alter_of_none _ he
    have hdone : Call.runFor su moments (1 + 1) 1
        (.authoring (.done (.error (.notFound id)))) d =
        (.authoring (.done (.error (.notFound id))), d) :=
      Call.runFor_of_isDone su moments 2 1 d rfl
    rw [perform, call, hrun, Call.runFor_succ, Call.step, Authoring.step, if_pos rfl, h.check, he]
    simp only
    rw [hdone]
    apply settles_unchanged h hafter
    simp only [Book.Answers, hafter, Book.Shows, he]
    rfl

theorem settles_delete (h : d.store.Represents b) (id : Int) :
    b.Settles moments (.delete id) d (perform su moments d (.delete id)) := by
  have hrun : Call.run su moments 0 (.authoring (.delete id)) d =
      Call.step su (moments 0) d (.authoring (.delete id)) := rfl
  rw [perform, call, hrun, Call.step, Authoring.step]
  simp only [Desk.on, h.deletePolicy]
  cases he : b.entry id with
  | some e =>
    refine ⟨⟨_, rfl, ?_, ?_⟩, h.removed id⟩
    · simp only [Book.Answers, he]
    · rintro e ⟨⟩
  | none =>
    have hafter : b.after moments (.delete id) = b := b.remove_of_none he
    simp only [h.filter_of_none he]
    apply settles_unchanged h hafter
    simp only [Book.Answers, he]
    rfl

theorem settles_list (h : d.store.Represents b) (enabledOnly : Bool) :
    b.Settles moments (.list enabledOnly) d (perform su moments d (.list enabledOnly)) := by
  have hlist := listPolicies_eq h.table false
  have hanswer : Authoring.list d.store enabledOnly = .ok
      (if enabledOnly then Policy.inForce
        ((d.store.listedRows false).mergeSort PolicyRow.before |>.filterMap (·.read.toOption))
      else (d.store.listedRows false).mergeSort PolicyRow.before
        |>.filterMap (·.read.toOption)) := by
    cases enabledOnly with
    | false =>
      rw [Authoring.list, hlist]
      rfl
    | true =>
      rw [Authoring.list, h.listPolicies_true hlist]
      rfl
  rw [perform, hanswer]
  refine ⟨⟨_, rfl, ⟨_, h.lists hlist, rfl⟩, ?_⟩, h⟩
  rintro e ⟨⟩

theorem settles_reopen (h : d.store.Represents b) :
    b.Settles moments .reopen d (perform su moments d .reopen) := by
  rw [perform, h.reopened]
  refine ⟨⟨_, rfl, rfl, ?_⟩, h⟩
  rintro e ⟨⟩

/-- Whatever is done is answered as the book has it. -/
theorem settles_perform (h : d.store.Represents b) (hclock : ∀ n, (moments n).now.Sortable)
    (x : Dealing) (hdraft : ∀ draft, x.draft? = some draft → draft.Legible) :
    b.Settles moments x d (perform su moments d x) := by
  cases x with
  | create draft => exact settles_create h hclock (hdraft draft rfl)
  | update id draft => exact settles_update h hclock id (hdraft draft rfl)
  | setEnabled id enabled => exact settles_setEnabled h hclock id enabled
  | delete id => exact settles_delete h id
  | get id => exact settles_unchanged h rfl (shows_found h id)
  | list enabledOnly => exact settles_list h enabledOnly
  | reopen => exact settles_reopen h

end Dealing

namespace Dealings

variable {su : Setup} {l : Dealings} {b : Book} {x : Dealing × (Nat → Moment)}

end Dealings

theorem legible_sampleDraft : sampleDraft.Legible where
  condition := by
    refine .obj (List.pairwise_singleton _ _) ?_
    intro m hm
    rw [List.mem_singleton.mp hm]
    exact .arr (by simp)
  params := .null _

end Signoff
