import Mathlib
import Signoff.Proofs.Store.Keys

/-!
Runs of the migrations that are stopped between two statements. Whatever such runs leave behind, what
is on record has all its objects, and there is no object that does not belong there; so a statement
that is carried out again finds what it would make, the next one makes what is missing, and a run
that is not stopped ends where a single run would have ended.
-/

namespace Signoff.Store

namespace Schema

variable {s : Schema} {recorded rest : List Migration} {made : List Object} {todo : List Statement}

/-- The objects of migrations, in the order in which they are made. -/
def objectsOf (ms : List Migration) : List Object := ms.flatMap (·.objects)

/-- What there is after all migrations. -/
def complete : Schema := ⟨objectsOf Migration.all, some (Migration.all.map (·.version))⟩

/-- A run that is stopped after some of its statements. -/
def stopped (s : Schema) (n : Nat) : Schema := (s.executeAll (s.plan.take n)).1

/-- The database as a run finds it once versions can be recorded. -/
def opened (s : Schema) : Schema := { s with versions := some (s.versions.getD []) }

/-! ### The migrations -/

theorem versions_ascend : (Migration.all.map (·.version)).Pairwise (· < ·) := by decide

theorem versions_pos : ∀ m ∈ Migration.all, 0 < m.version := by decide

theorem nodup_objects : (objectsOf Migration.all).Nodup := by decide

/-- An index or a trigger is made after its table. -/
theorem table_made {o : Object} (h : made ++ [o] <+: objectsOf Migration.all) :
    o.table?.all made.contains = true := by
  have hall : ∀ i : Fin (objectsOf Migration.all).length,
      ((objectsOf Migration.all)[i]).table?.all ((objectsOf Migration.all).take i).contains = true := by
    decide
  obtain ⟨later, h⟩ := h
  have hlt : made.length < (objectsOf Migration.all).length := by simp [← h]
  have ho := hall ⟨made.length, hlt⟩
  simpa [← h] using ho

/-! ### One statement after the other -/

theorem executeAll_append {first second : List Statement} :
    s.executeAll (first ++ second) =
      match s.executeAll first with
      | (s', true) => s'.executeAll second
      | (s', false) => (s', false) := by
  induction first generalizing s with
  | nil => rfl
  | cons x first ih =>
    rw [List.cons_append, executeAll, executeAll]
    cases s.execute x with
    | none => rfl
    | some s' => exact ih

/-- A run carries out the statements of what it has to do, and fails where one of them does. -/
theorem migrateWith_eq (ms : List Migration) :
    (s.migrateWith ms).1 = (s.executeAll (ms.flatMap Migration.statements)).1 ∧
      ((s.migrateWith ms).2 = .ok () ↔
        (s.executeAll (ms.flatMap Migration.statements)).2 = true) := by
  induction ms generalizing s with
  | nil => simp [migrateWith, executeAll]
  | cons m ms ih =>
    rw [List.flatMap_cons, executeAll_append, migrateWith]
    rcases hrun : s.executeAll m.statements with ⟨s', _ | _⟩
    · simp
    · exact ih

theorem executeAll_plan : s.executeAll s.plan =
    s.opened.executeAll (s.due.flatMap Migration.statements) := rfl

/-- What a run has to do is told by its statements. -/
theorem migrate_eq : s.migrate.1 = (s.executeAll s.plan).1 ∧
    (s.migrate.2 = .ok () ↔ (s.executeAll s.plan).2 = true) := by
  rw [executeAll_plan]
  exact migrateWith_eq s.due

theorem stopped_of_length_le {n : Nat} (h : s.plan.length ≤ n) : s.stopped n = s.migrate.1 := by
  rw [stopped, List.take_of_length_le h]
  exact migrate_eq.1.symm

/-! ### How far runs have come -/

/-- Some migrations are on record, some objects are known to be there, and there are no objects but
those that come next. -/
structure Stage (recorded : List Migration) (made : List Object) (s : Schema) : Prop where
  versions : s.versions.getD [] = recorded.map (·.version)
  made : made <+: s.objects
  objects : s.objects <+: objectsOf Migration.all

/-- A database as stopped runs leave it. -/
def Midway (s : Schema) : Prop :=
  ∃ recorded rest, Migration.all = recorded ++ rest ∧ Stage recorded (objectsOf recorded) s

/-- What is left to do of a run. -/
inductive Ahead (s : Schema) : List Statement → Prop
  | finished : Stage Migration.all (objectsOf Migration.all) s → Ahead s []
  /-- Some objects of a migration were made. -/
  | within {recorded rest : List Migration} {m : Migration} {part others : List Object} :
      Migration.all = recorded ++ m :: rest → m.objects = part ++ others →
      Stage recorded (objectsOf recorded ++ part) s →
      Ahead s (others.map .make ++ .record m.version :: rest.flatMap Migration.statements)

theorem midway_empty : empty.Midway :=
  ⟨[], Migration.all, rfl, rfl, List.prefix_rfl, List.nil_prefix⟩

theorem Stage.mono {less : List Object} (h : Stage recorded made s) (hless : less <+: made) :
    Stage recorded less s :=
  ⟨h.versions, hless.trans h.made, h.objects⟩

theorem Stage.ahead (hall : Migration.all = recorded ++ rest)
    (h : Stage recorded (objectsOf recorded) s) :
    Ahead s (rest.flatMap Migration.statements) := by
  cases rest with
  | nil =>
    rw [List.append_nil] at hall
    subst hall
    exact .finished h
  | cons m rest =>
    rw [← List.append_nil (objectsOf recorded)] at h
    have hahead := Ahead.within hall (List.nil_append m.objects).symm h
    rwa [List.flatMap_cons, Migration.statements, List.append_assoc]

theorem Ahead.midway (h : s.Ahead todo) : s.Midway := by
  cases h with
  | finished h => exact ⟨_, [], (List.append_nil _).symm, h⟩
  | within hall _ h => exact ⟨_, _, hall, h.mono (List.prefix_append _ _)⟩

/-! ### What a statement does -/

/-- The next object is there, or nothing comes after what is known to be there, and it is made. -/
theorem Stage.make {o : Object} (h : Stage recorded made s)
    (ho : made ++ [o] <+: objectsOf Migration.all) :
    ∃ s', s.make o = some s' ∧ Stage recorded (made ++ [o]) s' := by
  obtain ⟨others, hobjects⟩ := h.made
  cases others with
  | nil =>
    rw [List.append_nil] at hobjects
    have hnew : s.has o = false := by
      have hnodup : (made ++ [o]).Nodup := nodup_objects.sublist ho.sublist
      rw [has, ← hobjects, List.contains_eq_mem, decide_eq_false_iff_not]
      exact fun hmem => (List.nodup_append.mp hnodup).2.2 o hmem o List.mem_cons_self rfl
    have htable : o.table?.all s.has = true := by
      have hmade := table_made ho
      rwa [hobjects] at hmade
    refine ⟨{ s with objects := s.objects ++ [o] }, ?_, h.versions, ?_, ?_⟩
    · rw [Schema.make, hnew, htable]
      rfl
    · rw [← hobjects]
    · rwa [← hobjects]
  | cons next others =>
    -- what comes next among the objects is this one, as there is only one order
    have hnext : next = o := by
      have hprefix : made ++ [next] <+: objectsOf Migration.all := by
        refine List.IsPrefix.trans ?_ h.objects
        rw [← hobjects]
        exact ⟨others, by simp⟩
      have hsame := List.prefix_of_prefix_length_le hprefix ho (by simp)
      have heq := hsame.eq_of_length (by simp)
      simpa using heq
    subst hnext
    refine ⟨s, ?_, h.versions, ⟨others, ?_⟩, h.objects⟩
    · rw [Schema.make, has, ← hobjects]
      simp
    · rw [← hobjects]
      simp

/-- A migration whose objects are all there is put on record. -/
theorem Stage.record {m : Migration} (hall : Migration.all = recorded ++ m :: rest)
    (h : Stage recorded (objectsOf recorded ++ m.objects) s) :
    Stage (recorded ++ [m]) (objectsOf (recorded ++ [m])) (s.record m.version) := by
  have hnew : m.version ∉ s.versions.getD [] := by
    have hascend := versions_ascend
    rw [hall, List.map_append, List.pairwise_append] at hascend
    rw [h.versions]
    intro hmem
    exact lt_irrefl _ (hascend.2.2 m.version hmem m.version (by simp))
  refine ⟨?_, ?_, h.objects⟩
  · rw [Schema.record, if_neg (by simpa using hnew), h.versions]
    simp
  · rw [objectsOf, List.flatMap_append, List.flatMap_singleton]
    exact h.made

/-- The statement that comes next is carried out. -/
theorem Ahead.step {x : Statement} (h : s.Ahead (x :: todo)) :
    ∃ s', s.execute x = some s' ∧ s'.Ahead todo := by
  generalize hx : x :: todo = statements at h
  cases h with
  | finished h => cases hx
  | @within recorded rest m part others hall hm h =>
    cases others with
    | nil =>
      cases hx
      rw [List.append_nil] at hm
      rw [← hm] at h
      exact ⟨_, rfl, (h.record hall).ahead (by rw [hall, List.append_assoc]; rfl)⟩
    | cons o others =>
      cases hx
      have hnext : objectsOf recorded ++ part ++ [o] <+: objectsOf Migration.all := by
        rw [hall, objectsOf, objectsOf, List.flatMap_append, List.flatMap_cons, hm]
        exact ⟨others ++ rest.flatMap (·.objects), by simp⟩
      obtain ⟨s', hmake, hstage⟩ := h.make hnext
      rw [List.append_assoc] at hstage
      exact ⟨s', hmake, .within hall (by rw [hm, List.append_assoc]; rfl) hstage⟩

/-- Some of the statements are carried out, and the others are left. -/
theorem Ahead.run {first second : List Statement} (h : s.Ahead (first ++ second)) :
    ∃ s', s.executeAll first = (s', true) ∧ s'.Ahead second := by
  induction first generalizing s with
  | nil => exact ⟨s, rfl, h⟩
  | cons x first ih =>
    obtain ⟨s₁, hx, h₁⟩ := h.step
    obtain ⟨s', hrun, h'⟩ := ih h₁
    exact ⟨s', by rw [executeAll, hx]; exact hrun, h'⟩

/-! ### Runs -/

/-- A run does what is not on record. -/
theorem Stage.due (hall : Migration.all = recorded ++ rest) (h : Stage recorded made s) :
    s.due = rest := by
  have hversion (v : Int) : s.version ≤ v ↔ 0 ≤ v ∧ ∀ m ∈ recorded, m.version ≤ v := by
    rw [version, h.versions, foldl_max_le_iff, List.forall_mem_map]
  -- versions ascend, so that the highest on record parts what is done from what is left
  have hascend := versions_ascend
  rw [hall, List.map_append, List.pairwise_append] at hascend
  have hdone : ∀ m ∈ recorded, ¬s.version < m.version := by
    intro m hm
    exact not_lt_of_ge (((hversion _).mp le_rfl).2 m hm)
  have hleft : ∀ m ∈ rest, s.version < m.version := by
    intro m hm
    have hpos : 0 < m.version := versions_pos m (by rw [hall]; exact List.mem_append_right _ hm)
    apply Int.lt_of_le_sub_one
    rw [hversion]
    refine ⟨by omega, ?_⟩
    intro k hk
    have hlt := hascend.2.2 k.version (List.mem_map_of_mem hk) m.version (List.mem_map_of_mem hm)
    omega
  rw [Schema.due, hall, List.filter_append, List.filter_eq_nil_iff.mpr, List.filter_eq_self.mpr,
    List.nil_append]
  · intro m hm
    exact decide_eq_true (hleft m hm)
  · intro m hm
    rw [decide_eq_true_iff]
    exact hdone m hm

theorem Midway.ahead (h : s.Midway) : s.opened.Ahead (s.due.flatMap Migration.statements) := by
  obtain ⟨recorded, rest, hall, hstage⟩ := h
  rw [hstage.due hall]
  exact Stage.ahead hall ⟨hstage.versions, hstage.made, hstage.objects⟩

/-- A run that is stopped once more leaves it so. -/
theorem Midway.stopped (h : s.Midway) (n : Nat) : (s.stopped n).Midway := by
  cases n with
  | zero => exact h
  | succ n =>
    have hahead := h.ahead
    rw [← List.take_append_drop n (s.due.flatMap Migration.statements)] at hahead
    obtain ⟨s', hrun, h'⟩ := hahead.run
    have hstopped : s.stopped (n + 1) = s' := congrArg Prod.fst hrun
    rw [hstopped]
    exact h'.midway

/-- A run that is not stopped does all that was left. -/
theorem Midway.migrate (h : s.Midway) : s.migrate = (complete, .ok ()) := by
  have hahead := h.ahead
  rw [← List.append_nil (s.due.flatMap Migration.statements)] at hahead
  obtain ⟨s', hrun, h'⟩ := hahead.run
  have hcomplete : s' = complete := by
    -- when nothing is left to do, all that the migrations make is there
    generalize hleft : ([] : List Statement) = left at h'
    cases h' with
    | within => simp at hleft
    | finished h =>
      have hobjects : s'.objects = objectsOf Migration.all :=
        List.IsPrefix.eq_of_length_le h.objects h.made.length_le
      have hversions : s'.versions = some (Migration.all.map (·.version)) := by
        have hget := h.versions
        cases hv : s'.versions with
        | none =>
          rw [hv] at hget
          cases hget
        | some versions =>
          rw [hv] at hget
          exact congrArg some hget
      rw [complete, ← hobjects, ← hversions]
  have heq := migrate_eq (s := s)
  rw [executeAll_plan, hrun, hcomplete] at heq
  exact Prod.ext heq.1 (heq.2.mpr rfl)

theorem midway_stops (stops : List Nat) : (stops.foldl stopped empty).Midway := by
  have hstops (s : Schema) (h : s.Midway) : (stops.foldl stopped s).Midway := by
    induction stops generalizing s with
    | nil => exact h
    | cons n stops ih => exact ih _ (h.stopped n)
  exact hstops empty midway_empty

/-- What is on record has its objects. -/
theorem Midway.has {m : Migration} {o : Object} (h : s.Midway) (hm : m ∈ Migration.all)
    (hrecord : m.version ∈ s.versions.getD []) (ho : o ∈ m.objects) : s.has o = true := by
  obtain ⟨recorded, rest, hall, hstage⟩ := h
  have hascend := versions_ascend
  rw [hall, List.map_append, List.pairwise_append] at hascend
  rw [hall, List.mem_append] at hm
  rw [hstage.versions] at hrecord
  rcases hm with hm | hm
  · have hmade : o ∈ objectsOf recorded := List.mem_flatMap.mpr ⟨m, hm, ho⟩
    rw [Schema.has, List.contains_eq_mem, decide_eq_true_iff]
    exact hstage.made.subset hmade
  · -- a later migration has a later version
    have hlt := hascend.2.2 m.version hrecord m.version (List.mem_map_of_mem hm)
    exact absurd hlt (lt_irrefl _)

end Schema

/-- However often runs on a new file were stopped, and wherever, what is then on record has its
objects, and the next run that is not stopped succeeds and leaves what a single one would have left,
which is all there is to make. On that, a run changes nothing, whatever rows there are. And a run
that is stopped only after its last statement is a run. -/
theorem migrate_catches_up (stops : List Nat) (rows : Store) :
    let left := stops.foldl Schema.stopped Schema.empty
    (∀ m ∈ Migration.all, m.version ∈ left.versions.getD [] → ∀ o ∈ m.objects,
        left.has o = true) ∧
      left.migrate = (Schema.complete, .ok ()) ∧
      Schema.empty.migrate = (Schema.complete, .ok ()) ∧
      ({ rows with schema := Schema.complete } : Store).migrate =
        (.ok (), { rows with schema := Schema.complete }) ∧
      ∀ s : Schema, s.stopped s.plan.length = s.migrate.1 := by
  intro left
  have hleft : left.Midway := Schema.midway_stops stops
  have hdone : Schema.complete.Midway :=
    ⟨_, [], (List.append_nil _).symm, rfl, List.prefix_rfl, List.prefix_rfl⟩
  refine ⟨?_, hleft.migrate, Schema.midway_empty.migrate, ?_, ?_⟩
  · intro m hm hrecord o ho
    exact hleft.has hm hrecord ho
  · rw [migrate, hdone.migrate]
  · intro s
    exact Schema.stopped_of_length_le le_rfl

/-- A run that was stopped within the first migration: some objects are there, and nothing is on
record. -/
example : Schema.empty.stopped 5 =
    ⟨[.policies, .policiesOrder, .proposals, .proposalsStatus], some []⟩ := by decide

end Signoff.Store
