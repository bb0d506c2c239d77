import Mathlib
import Signoff.Proofs.Feed.View
import Signoff.Proofs.Web.Refusals

/-!
Seats come to know exactly what is pending. A seat is taken, told later what is pending, and hears
everything that was told since it was taken; in between other calls make their steps. As long as each
write is told before another call makes a step, the announcements come in the order of the writes,
and what a seat was sent, with what is still to be sent to it, gives the proposals that are pending.
-/

namespace Signoff.Feed

open Proposal

namespace Hub

/-- What was written and has yet to be told. -/
def due (h : Hub) : List Event := h.tasks.filterMap (·.call.tells?)

/-- What was told, followed by what has yet to be told. -/
def log (h : Hub) : List Event := h.desk.told ++ h.due

/-- Whether no call but the one that makes a step has something to tell first. -/
def allows (h : Hub) : Act → Bool
  | .work task _ => (h.tasks.eraseIdx task).all (·.call.tells?.isNone)
  | _ => true

variable {su : Setup} {h : Hub}

theorem run_append (acts later : List Act) :
    h.run su (acts ++ later) = (h.run su acts).run su later := List.foldl_append

end Hub

/-- An act such as calls and clocks give rise to: what is asked for was read from a text, and the
clock keeps to the years of four digits. -/
def Act.Proper : Act → Prop
  | .ask c => c.Brought
  | .work _ m => m.now.Sortable
  | _ => True

namespace Hub

variable (su : Setup) {h h' : Hub} {a : Act} {first : Nat}

/-! ### Seats -/

/-- What becomes of a place at the desk in one step: it stays empty, it is taken, or something happens
at the seat there. -/
inductive SeatStep (d : Desk) : Option Seat → Option Seat → Prop
  | absent : SeatStep d none none
  | taken : SeatStep d none (some (.new d.told.length))
  | changed (s s' : Seat) (hc : Seat.Changes d.store d.told s s') : SeatStep d (some s) (some s')

theorem seatStep_refl (d : Desk) (s : Option Seat) : SeatStep d s s := by
  cases s with
  | none => exact .absent
  | some s => exact .changed s s (.refl s)

theorem seatStep_modify (d : Desk) (seats : List Seat) (i j : Nat) {f : Seat → Seat}
    (hf : ∀ s, Seat.Changes d.store d.told s (f s)) :
    SeatStep d seats[j]? (seats.modify i f)[j]? := by
  rw [List.getElem?_modify]
  cases hs : seats[j]? with
  | none => exact .absent
  | some s =>
    rw [Option.map_eq_map, Option.map_some]
    split_ifs
    · exact .changed s (f s) (hf s)
    · exact .changed s s (.refl s)

theorem seatStep_work (h : Hub) (task : Nat) (m : Moment) (j : Nat) :
    SeatStep h.desk h.seats[j]? (h.work su task m).seats[j]? := by
  rw [work]
  split
  · exact seatStep_refl _ _
  · next t ht =>
    split
    · exact seatStep_refl _ _
    · dsimp only
      split
      · next seat f hanswer =>
        -- an answer is a refusal
        have hf : ∃ id message, f = .refusal id message := by
          unfold answer? at hanswer
          split at hanswer
          · cases hanswer
            exact ⟨_, _, rfl⟩
          · cases hanswer
        obtain ⟨id, message, rfl⟩ := hf
        exact seatStep_modify h.desk h.seats seat j fun s => s.changes_refuse id message
      · exact seatStep_refl _ _

theorem seatStep_step (h : Hub) (a : Act) (j : Nat) :
    SeatStep h.desk h.seats[j]? (h.step su a).seats[j]? := by
  cases a with
  | join =>
    rw [step]
    dsimp only
    -- the new seat stands after the others
    rcases Nat.lt_trichotomy j h.seats.length with hj | hj | hj
    · rw [List.getElem?_append_left hj]
      exact seatStep_refl _ _
    · rw [hj, List.getElem?_concat_length, List.getElem?_eq_none (le_refl _)]
      exact .taken
    · have hnone : (h.seats ++ [Seat.new h.desk.told.length])[j]? = none := by
        apply List.getElem?_eq_none
        rw [List.length_append, List.length_singleton]
        exact hj
      rw [hnone, List.getElem?_eq_none hj.le]
      exact .absent
  | greet seat => exact seatStep_modify h.desk h.seats seat j fun s => s.changes_greet
  | say seat text =>
    rw [step]
    split
    · rw [say]
      split
      · exact seatStep_modify h.desk h.seats seat j fun s => s.changes_refuse _ _
      · exact seatStep_refl _ _
    · exact seatStep_refl _ _
  | hear seat => exact seatStep_modify h.desk h.seats seat j fun s => s.changes_hear
  | pass seat => exact seatStep_modify h.desk h.seats seat j fun s => s.changes_pass
  | leave seat => exact seatStep_modify h.desk h.seats seat j fun s => s.changes_leave
  | ask c => exact seatStep_refl _ _
  | work task m => exact seatStep_work su h task m j

/-! ### Calls -/

/-- Where one thing at most has something to say, that is all that is said. -/
theorem filterMap_of_eraseIdx {α β : Type} {f : α → Option β} {as : List α} {i : Nat} {a : α}
    (ha : as[i]? = some a) (h : ∀ b ∈ as.eraseIdx i, f b = none) :
    as.filterMap f = (f a).toList := by
  obtain ⟨hlt, hget⟩ := List.getElem?_eq_some_iff.mp ha
  rw [List.eraseIdx_eq_take_drop_succ] at h
  have hbefore : (as.take i).filterMap f = [] :=
    List.filterMap_eq_nil_iff.mpr fun b hb => h b (List.mem_append_left _ hb)
  have hafter : (as.drop (i + 1)).filterMap f = [] :=
    List.filterMap_eq_nil_iff.mpr fun b hb => h b (List.mem_append_right _ hb)
  calc
    as.filterMap f = (as.take i ++ a :: as.drop (i + 1)).filterMap f := by
      rw [← hget, ← List.drop_eq_getElem_cons hlt, List.take_append_drop]
    _ = (f a).toList := by
      rw [List.filterMap_append, hbefore, List.filterMap_cons, hafter]
      cases f a <;> rfl

theorem work_of_none {task : Nat} (m : Moment) (ht : h.tasks[task]? = none) :
    h.work su task m = h := by
  rw [work, ht]

/-- A step that is made of a call is made of it by the desk. -/
theorem work_of_get {task : Nat} {t : Task} (m : Moment) (ht : h.tasks[task]? = some t) :
    (h.work su task m).desk = (t.call.step su m h.desk).2 ∧
      (h.work su task m).tasks =
        h.tasks.set task { t with call := (t.call.step su m h.desk).1 } := by
  rw [work, ht]
  dsimp only
  split
  · next hdone =>
    obtain ⟨hlt, hget⟩ := List.getElem?_eq_some_iff.mp ht
    rw [Call.step_of_isDone su m h.desk hdone]
    refine ⟨rfl, ?_⟩
    dsimp only
    rw [← hget, List.set_getElem_self]
  · split <;> exact ⟨rfl, rfl⟩

/-- What one step does to the log and to what is pending: nothing, or something is written, and what
is to be told of it says just that. -/
inductive LogStep (h h' : Hub) : Prop
  | same (hlog : h'.log = h.log) (hv : h'.desk.store.pendingSet = h.desk.store.pendingSet)
  | written (e : Event) (hlog : h'.log = h.log ++ [e])
    (hv : h'.desk.store.pendingSet = e.update h.desk.store.pendingSet)

/-- What holds between the steps. -/
structure Tracked (first : Nat) (h : Hub) : Prop where
  tidy : h.desk.store.Tidy
  carries : ∀ t ∈ h.tasks, t.call.Carries
  after : first ≤ h.desk.told.length
  stable : Event.Stable first h.log h.desk.store.pendingSet
  placed : ∀ s ∈ h.seats, s.Placed first h.desk.told

theorem logStep_work (ht : h.Tracked first) {task : Nat} {m : Moment} (hnow : m.now.Sortable)
    (hallowed : h.allows (.work task m) = true) :
    LogStep h (h.work su task m) ∧
      h.desk.told.length ≤ (h.work su task m).desk.told.length := by
  cases hget : h.tasks[task]? with
  | none =>
    rw [work_of_none su m hget]
    exact ⟨.same rfl rfl, le_refl _⟩
  | some t =>
    obtain ⟨hdesk, htasks⟩ := work_of_get su m hget
    have hcarries := ht.carries t (List.mem_of_getElem? hget)
    -- only the call that makes the step may have something to tell, before it and after it
    have hothers : ∀ u ∈ h.tasks.eraseIdx task, u.call.tells? = none := by
      intro u hu
      exact Option.isNone_iff_eq_none.mp (List.all_eq_true.mp hallowed u hu)
    have hdue : h.due = t.call.tells?.toList := filterMap_of_eraseIdx hget hothers
    have hdue' : (h.work su task m).due = (t.call.step su m h.desk).1.tells?.toList := by
      have hset := List.getElem?_set_self (a := { t with call := (t.call.step su m h.desk).1 })
        (List.getElem?_eq_some_iff.mp hget).1
      rw [due, htasks]
      apply filterMap_of_eraseIdx hset
      rw [List.eraseIdx_set_eq]
      exact hothers
    have hannounces := announces_step ht.tidy.toReady ht.tidy.readable hnow su t.call
    rw [← hdesk] at hannounces
    generalize (t.call.step su m h.desk).1 = c' at hannounces hdue'
    generalize h.work su task m = h' at hannounces hdue' ⊢
    cases hannounces with
    | quiet hc hc' hp htold =>
      refine ⟨.same ?_ (Store.pendingSet_of_proposals hp), htold ▸ le_refl _⟩
      rw [log, log, htold, hdue, hdue', hc, hc']
    | told e hc hc' hs htold =>
      -- what was due is told, so it stands in the log where it stood
      refine ⟨.same ?_ (by rw [hs]), ?_⟩
      · rw [log, log, htold, hdue, hdue', hc, hc', List.append_assoc]
        rfl
      · rw [htold, List.length_append]
        omega
    | added p hc ha hc' _ hp htold =>
      obtain ⟨hstatus, hholds⟩ := holds_of_adds? hcarries ha
      -- nothing was due before, so what is due now comes last in the log
      refine ⟨.written (.proposed p) ?_ ?_, htold ▸ le_refl _⟩
      · rw [log, log, htold, hdue, hdue', hc, hc', List.append_assoc]
        rfl
      · exact (Store.pendingSet_of_proposals hp).trans (Store.pendingSet_append hholds hstatus)
    | moved u hc hu hc' hrow hp htold =>
      obtain ⟨r, hrow, hsource⟩ := hrow
      refine ⟨.written (.statusChanged u.id u.target u.error) ?_ ?_, htold ▸ le_refl _⟩
      · rw [log, log, htold, hdue, hdue', hc, hc', List.append_assoc]
        rfl
      · exact (Store.pendingSet_of_proposals hp).trans
          (Store.pendingSet_changed ht.tidy.toKeyed ht.tidy.readable (tries?_edge hu).1 hrow hsource)

/-- Whatever happens but a step of a call leaves the desk alone, and may bring calls. -/
theorem step_of_ne_work (h : Hub) (hproper : a.Proper) (hno : ∀ task m, a ≠ .work task m) :
    (h.step su a).desk = h.desk ∧
      ∃ new : List Task, (h.step su a).tasks = h.tasks ++ new ∧ ∀ t ∈ new, t.call.Brought := by
  -- only a message that can be read and a request add a task
  cases a with
  | say seat text =>
    rw [step]
    split
    · rw [say]
      split
      · exact ⟨rfl, [], (List.append_nil _).symm, by simp⟩
      · next message _ =>
        refine ⟨rfl, [⟨.review message.review, some (seat, message.proposal)⟩], rfl, ?_⟩
        intro t ht
        rw [List.mem_singleton.mp ht]
        exact message.brought
    · exact ⟨rfl, [], (List.append_nil _).symm, by simp⟩
  | ask c =>
    refine ⟨rfl, [⟨c, none⟩], rfl, ?_⟩
    intro t ht
    rw [List.mem_singleton.mp ht]
    exact hproper
  | work task m => exact absurd rfl (hno task m)
  | _ => exact ⟨rfl, [], (List.append_nil _).symm, by simp⟩

theorem logStep_step (ht : h.Tracked first) (hproper : a.Proper) (hallowed : h.allows a = true) :
    LogStep h (h.step su a) ∧ h.desk.told.length ≤ (h.step su a).desk.told.length := by
  by_cases hwork : ∃ task m, a = .work task m
  · obtain ⟨task, m, rfl⟩ := hwork
    exact logStep_work su ht hproper hallowed
  · push Not at hwork
    obtain ⟨hdesk, new, htasks, hnew⟩ := step_of_ne_work su h hproper hwork
    -- a call that has just come has nothing to tell yet
    have hsilent : new.filterMap (·.call.tells?) = [] := by
      apply List.filterMap_eq_nil_iff.mpr
      intro t htask
      exact tells?_of_isStart (hnew t htask).start
    refine ⟨.same ?_ (by rw [hdesk]), hdesk ▸ le_refl _⟩
    rw [log, log, due, due, hdesk, htasks, List.filterMap_append, hsilent, List.append_nil]

theorem calls_step (ht : h.Tracked first) (hproper : a.Proper) :
    (h.step su a).desk.store.Tidy ∧ ∀ t ∈ (h.step su a).tasks, t.call.Carries := by
  -- only work on a task touches the desk or a task that is there
  by_cases hwork : ∃ task m, a = .work task m
  · obtain ⟨task, m, rfl⟩ := hwork
    rw [step]
    cases hget : h.tasks[task]? with
    | none =>
      rw [work_of_none su m hget]
      exact ⟨ht.tidy, ht.carries⟩
    | some t =>
      obtain ⟨hdesk, htasks⟩ := work_of_get su m hget
      have hcarries := ht.carries t (List.mem_of_getElem? hget)
      rw [hdesk, htasks]
      refine ⟨tidy_step su ht.tidy hproper hcarries, ?_⟩
      intro u hu
      rcases List.mem_or_eq_of_mem_set hu with hu | rfl
      · exact ht.carries u hu
      · exact carries_step su ht.tidy hproper hcarries
  · push Not at hwork
    obtain ⟨hdesk, new, htasks, hnew⟩ := step_of_ne_work su h hproper hwork
    rw [hdesk, htasks]
    refine ⟨ht.tidy, ?_⟩
    intro u hu
    rcases List.mem_append.mp hu with hu | hu
    · exact ht.carries u hu
    · exact (hnew u hu).carries

/-! ### Runs -/

theorem Tracked.step (ht : h.Tracked first) (hproper : a.Proper) (hallowed : h.allows a = true) :
    (h.step su a).Tracked first := by
  obtain ⟨htidy, hcarries⟩ := calls_step su ht hproper
  obtain ⟨hlog, htold⟩ := logStep_step su ht hproper hallowed
  refine ⟨htidy, hcarries, ht.after.trans htold, ?_, ?_⟩
  · cases hlog with
    | same hlog hv =>
      rw [hlog, hv]
      exact ht.stable
    | written e hlog hv =>
      rw [hlog, hv]
      exact ht.stable.append e
  · -- a seat was there before, or it has just been taken
    intro s' hs'
    obtain ⟨j, hj⟩ := List.mem_iff_getElem?.mp hs'
    have hseat := seatStep_step su h a j
    rw [hj] at hseat
    generalize hbefore : h.seats[j]? = before at hseat
    cases hseat with
    | taken => exact (Seat.placed_new ht.after).mono htold
    | changed s _ hc => exact ((ht.placed s (List.mem_of_getElem? hbefore)).changes hc).mono htold

end Hub

end Signoff.Feed
