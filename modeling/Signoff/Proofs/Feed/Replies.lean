import Mathlib
import Signoff.Proofs.Feed.Convergence

/-!
Refusals go back to who is refused. A seat that listens on until all is done gets one for every text
that is no message, and one for every decision of its own that is refused; none for decisions that
succeed, and none for what is said from other seats, in whatever order the calls end.
-/

namespace Signoff

/-- One call is what another may be after a step. -/
def Call.Onward (su : Setup) (c c' : Call) : Prop := ∃ m d, c' = (c.step su m d).1

namespace Feed

def Frame.isRefusal : Frame → Bool
  | event _ => false
  | refusal _ _ => true

/-- Whether a text is no message. -/
def isUnrecognized (text : String) : Bool := (Message.ofText? text).isNone

/-- The texts that are said from a seat. -/
def saidFrom (seat : Nat) (acts : List Act) : List String :=
  acts.filterMap fun
    | .say i text => if i = seat then some text else none
    | _ => none

/-- The refusals of those texts that are no messages. -/
def unrecognized (said : List String) : List Frame :=
  (said.filter isUnrecognized).map fun _ => .unrecognized

theorem unrecognized_append (said later : List String) :
    unrecognized (said ++ later) = unrecognized said ++ unrecognized later := by
  rw [unrecognized, List.filter_append, List.map_append, unrecognized, unrecognized]

/-- Whether a decision came from a seat. -/
def Task.isFrom (t : Task) (seat : Nat) : Bool := t.sender.any (·.1 == seat)

/-- A call under way that a message from a seat brought about. -/
structure Task.Decides (su : Setup) (seat : Nat) (m : Message) (t : Task) : Prop where
  sender : t.sender = some (seat, m.proposal)
  call : Relation.ReflTransGen (Call.Onward su) (.review m.review) t.call

namespace Seat

/-- The refusals that were sent to a seat, and those that wait for it. -/
def refusals (s : Seat) : List Frame := (s.sent ++ s.waiting).filter Frame.isRefusal

theorem refusals_greet (s : Seat) (store : Store) : (s.greet store).refusals = s.refusals := by
  rw [greet]
  split
  · rfl
  · split
    · simp [refusals, send, Frame.isRefusal]
    · rfl

theorem refusals_hear (s : Seat) (told : List Proposal.Event) :
    (s.hear told).refusals = s.refusals := by
  rw [hear]
  split
  · split
    · simp [refusals, send, Frame.isRefusal]
    · rfl
  · rfl

/-- A refusal that is sent waited before. -/
theorem refusals_pass (s : Seat) : s.pass.refusals = s.refusals := by
  rw [pass]
  split
  · split
    · next f rest hwaiting => simp [refusals, send, hwaiting]
    · rfl
  · rfl

theorem refusals_refuse (s : Seat) (id : Option Uuid) (message : String) :
    (s.refuse (.refusal id message)).refusals = s.refusals ++ [.refusal id message] := by
  rw [refusals, refuse, ← List.append_assoc, List.filter_append]
  rfl

end Seat

namespace Hub

variable {su : Setup} {h h' h₀ : Hub} {seat : Nat} {said : List String} {t : Task}
  {r : Review} {c : Call}

/-- Whether somebody listens to what is said from a seat: its reviewer was greeted, and stays. -/
def listens (h : Hub) (seat : Nat) : Act → Bool
  | .say i _ => i != seat || h.seats[i]?.any (·.isReady)
  | _ => true

/-- The decisions from a seat, in the order in which they came. -/
def decisionsFrom (h : Hub) (seat : Nat) : List Task := h.tasks.filter (·.isFrom seat)

/-- What a call says to a seat at its end. -/
def answerTo? (seat : Nat) (t : Task) : Option Frame :=
  (answer? t).bind fun x => if x.1 = seat then some x.2 else none

/-- What the calls that have ended say to a seat. -/
def answers (h : Hub) (seat : Nat) : List Frame := h.tasks.filterMap (answerTo? seat)

/-- The refusals at a seat; none where there is no seat. -/
def refusalsAt (h : Hub) (seat : Nat) : List Frame := h.seats[seat]?.elim [] Seat.refusals

/-! ### Answers -/

theorem answer?_of_not_done (hdone : t.call.isDone = false) : answer? t = none := by
  unfold answer?
  split
  · next hcall =>
    rw [hcall] at hdone
    cases hdone
  · rfl

theorem answerTo?_of_not_done (hdone : t.call.isDone = false) : answerTo? seat t = none := by
  rw [answerTo?, answer?_of_not_done hdone]
  rfl

/-- An answer is a refusal, and goes to where the decision came from. -/
theorem answer?_eq_some {x : Nat × Frame} (h : answer? t = some x) :
    t.isFrom x.1 = true ∧ ∃ id message, x.2 = .refusal id message := by
  unfold answer? at h
  split at h
  · next hsender _ =>
    cases h
    refine ⟨?_, _, _, rfl⟩
    rw [Task.isFrom, hsender]
    exact beq_self_eq_true _
  · cases h

theorem answerTo?_of_not_from (h : t.isFrom seat = false) : answerTo? seat t = none := by
  rw [answerTo?]
  cases hanswer : answer? t with
  | none => rfl
  | some x =>
    have hfrom := (answer?_eq_some hanswer).1
    rw [Option.bind_some, if_neg]
    rintro rfl
    rw [h] at hfrom
    cases hfrom

theorem answers_eq (h : Hub) (seat : Nat) :
    h.answers seat = (h.decisionsFrom seat).filterMap (answerTo? seat) := by
  rw [answers, decisionsFrom, List.filterMap_filter]
  congr 1
  funext t
  split_ifs with hfrom
  · rfl
  · exact answerTo?_of_not_from (Bool.eq_false_of_not_eq_true hfrom)

theorem refusalsAt_atSeat (h : Hub) (i seat : Nat) (f : Seat → Seat) :
    (h.atSeat i f).refusalsAt seat =
      h.seats[seat]?.elim [] fun s => if i = seat then (f s).refusals else s.refusals := by
  rw [refusalsAt, atSeat, List.getElem?_modify]
  cases h.seats[seat]? with
  | none => rfl
  | some s =>
    rw [Option.map_eq_map, Option.map_some, Option.elim_some, Option.elim_some]
    split_ifs <;> rfl

/-- Where a seat has as many refusals as before, the desk has. -/
theorem refusalsAt_of_same (h : Hub) (i seat : Nat) {f : Seat → Seat}
    (hf : ∀ s, (f s).refusals = s.refusals) : (h.atSeat i f).refusalsAt seat = h.refusalsAt seat := by
  rw [refusalsAt_atSeat, refusalsAt]
  congr 1
  funext s
  rw [hf, ite_self]

theorem refusalsAt_of_ne (h : Hub) {i seat : Nat} (hne : i ≠ seat) (f : Seat → Seat) :
    (h.atSeat i f).refusalsAt seat = h.refusalsAt seat := by
  rw [refusalsAt_atSeat, refusalsAt]
  congr 1
  funext s
  exact if_neg hne

theorem refusalsAt_refuse {s : Seat} (hs : h.seats[seat]? = some s) (id : Option Uuid)
    (message : String) : (h.atSeat seat (·.refuse (.refusal id message))).refusalsAt seat =
      h.refusalsAt seat ++ [.refusal id message] := by
  rw [refusalsAt_atSeat, refusalsAt, hs]
  exact (if_pos rfl).trans (s.refusals_refuse id message)

theorem refusalsAt_join (h : Hub) (heard seat : Nat) :
    ({ h with seats := h.seats ++ [.new heard] } : Hub).refusalsAt seat = h.refusalsAt seat := by
  rw [refusalsAt, refusalsAt]
  by_cases hseat : seat < h.seats.length
  · rw [List.getElem?_append_left hseat]
  · rw [List.getElem?_append_right (not_lt.mp hseat), List.getElem?_eq_none (not_lt.mp hseat)]
    cases seat - h.seats.length <;> rfl

/-- No seat is taken away. -/
theorem seat_absent_before {a : Act} (h' : (h.step su a).seats[seat]? = none) :
    h.seats[seat]? = none := by
  have hseat := seatStep_step su h a seat
  rw [h'] at hseat
  generalize h.seats[seat]? = before at hseat
  cases hseat with
  | absent => rfl

/-- What a call says after a step is all that comes to a seat in it. -/
theorem refusalsAt_work (su : Setup) {task : Nat} (m : Moment) (ht : h.tasks[task]? = some t)
    (hdone : t.call.isDone = false)
    (hpresent : t.isFrom seat = true → ∃ s, h.seats[seat]? = some s) :
    (h.work su task m).refusalsAt seat = h.refusalsAt seat ++
      (answerTo? seat { t with call := (t.call.step su m h.desk).1 }).toList := by
  rw [work, ht]
  dsimp only
  rw [if_neg (by rw [hdone]; exact Bool.false_ne_true), answerTo?]
  -- an answer goes to the seat that the task came from
  split
  · next i f hanswer =>
    rw [hanswer, Option.bind_some]
    obtain ⟨hfrom, id, message, hf⟩ := answer?_eq_some hanswer
    dsimp only at hf
    subst hf
    by_cases hi : i = seat
    · subst hi
      obtain ⟨s, hs⟩ := hpresent hfrom
      rw [if_pos rfl]
      exact refusalsAt_refuse hs id message
    · rw [if_neg hi]
      exact (refusalsAt_of_ne _ hi _).trans (List.append_nil _).symm
  · next hanswer =>
    rw [hanswer]
    exact (List.append_nil _).symm

/-- What stands before and after one of many, and what becomes of them all when it changes. -/
theorem exists_split {α : Type} {as : List α} {i : Nat} {a : α} (h : as[i]? = some a) :
    ∃ before after, as = before ++ a :: after ∧ (∀ b, as.set i b = before ++ b :: after) ∧
      ∀ f, as.modify i f = before ++ f a :: after := by
  obtain ⟨hlt, hget⟩ := List.getElem?_eq_some_iff.mp h
  refine ⟨as.take i, as.drop (i + 1), ?_, ?_, ?_⟩
  · rw [← hget, ← List.drop_eq_getElem_cons hlt, List.take_append_drop]
  · intro b
    exact List.set_eq_take_append_cons_drop.trans (if_pos hlt)
  · intro f
    rw [List.modify_eq_take_cons_drop hlt, hget]

theorem forall₂_replace {α β : Type} {R : α → β → Prop} {as : List α} {before after : List β}
    {b b' : β} (h : List.Forall₂ R as (before ++ b :: after)) (hb : ∀ a, R a b → R a b') :
    List.Forall₂ R as (before ++ b' :: after) := by
  induction before generalizing as with
  | nil =>
    cases h with
    | cons ha hrest => exact .cons (hb _ ha) hrest
  | cons c before ih =>
    cases h with
    | cons ha hrest => exact .cons ha (ih hrest)

/-! ### What is owed to a seat -/

/-- Every message from a seat is a call under way or at its end, and the refusals at the seat are
those of its texts and of its calls so far. -/
structure Replied (su : Setup) (seat : Nat) (said : List String) (h : Hub) : Prop where
  absent : h.seats[seat]? = none → said = []
  decisions : List.Forall₂ (Task.Decides su seat) (said.filterMap Message.ofText?)
    (h.decisionsFrom seat)
  refusals : (h.refusalsAt seat).Perm (unrecognized said ++ h.answers seat)

/-- What neither says anything nor makes a step of a call leaves it so. -/
theorem Replied.of_same (h : Replied su seat said h₀) (others : List Task)
    (habsent : h'.seats[seat]? = none → h₀.seats[seat]? = none)
    (hrefusals : h'.refusalsAt seat = h₀.refusalsAt seat) (htasks : h'.tasks = h₀.tasks ++ others)
    (hothers : ∀ t ∈ others, t.isFrom seat = false) : Replied su seat said h' := by
  have hfrom : others.filter (·.isFrom seat) = [] :=
    List.filter_eq_nil_iff.mpr fun t ht => by simp [hothers t ht]
  have hdecisions : h'.decisionsFrom seat = h₀.decisionsFrom seat := by
    rw [decisionsFrom, htasks, List.filter_append, hfrom, List.append_nil, decisionsFrom]
  refine ⟨fun hnone => h.absent (habsent hnone), ?_, ?_⟩
  · rw [hdecisions]
    exact h.decisions
  · rw [hrefusals, answers_eq, hdecisions, ← answers_eq]
    exact h.refusals

/-- A text that is no message is refused to who said it. -/
theorem Replied.say_unrecognized (h : Replied su seat said h₀) {text : String} {s : Seat}
    (hs : h₀.seats[seat]? = some s) (hmessage : Message.ofText? text = none) :
    Replied su seat (said ++ [text]) (h₀.atSeat seat (·.refuse .unrecognized)) := by
  refine ⟨?_, ?_, ?_⟩
  · intro hnone
    rw [atSeat, List.getElem?_modify_eq, hs] at hnone
    cases hnone
  · have hmessages : [text].filterMap Message.ofText? = [] := by simp [hmessage]
    rw [List.filterMap_append, hmessages, List.append_nil]
    exact h.decisions
  · have hrefusal : unrecognized [text] = [.unrecognized] := by
      simp [unrecognized, isUnrecognized, hmessage]
    rw [unrecognized_append, hrefusal, Frame.unrecognized, refusalsAt_refuse hs]
    -- the calls said what they said before the text came
    have hlast := h.refusals.append_right [.refusal none "unrecognized message"]
    rw [List.append_assoc] at hlast ⊢
    exact hlast.trans (List.perm_append_comm.append_left _)

/-- A message makes one more call, which has not said anything yet. -/
theorem Replied.say_message (h : Replied su seat said h₀) {text : String} {m : Message} {s : Seat}
    (hs : h₀.seats[seat]? = some s) (hmessage : Message.ofText? text = some m) :
    Replied su seat (said ++ [text])
      { h₀ with tasks := h₀.tasks ++ [⟨.review m.review, some (seat, m.proposal)⟩] } := by
  refine ⟨?_, ?_, ?_⟩
  · intro hnone
    have habsent : h₀.seats[seat]? = none := hnone
    rw [hs] at habsent
    cases habsent
  · have hmessages : [text].filterMap Message.ofText? = [m] := by simp [hmessage]
    rw [List.filterMap_append, hmessages, decisionsFrom, List.filter_append]
    have hfrom : [(⟨.review m.review, some (seat, m.proposal)⟩ : Task)].filter (·.isFrom seat) =
        [⟨.review m.review, some (seat, m.proposal)⟩] := by simp [Task.isFrom]
    rw [hfrom]
    exact List.rel_append h.decisions (.cons ⟨rfl, .refl⟩ .nil)
  · have hrefusal : unrecognized [text] = [] := by
      simp [unrecognized, isUnrecognized, hmessage]
    have hundone : (⟨.review m.review, some (seat, m.proposal)⟩ : Task).call.isDone = false := by
      cases m <;> rfl
    have hanswer : [(⟨.review m.review, some (seat, m.proposal)⟩ : Task)].filterMap
        (answerTo? seat) = [] := by simp [answerTo?_of_not_done hundone]
    rw [unrecognized_append, hrefusal, List.append_nil, answers, List.filterMap_append, hanswer,
      List.append_nil]
    exact h.refusals

theorem Replied.say (h : Replied su seat said h₀) (text : String)
    (hlistens : h₀.listens seat (.say seat text) = true) :
    Replied su seat (said ++ [text]) (h₀.step su (.say seat text)) := by
  have hready : h₀.seats[seat]?.any (·.isReady) = true := by
    rwa [listens, bne_self_eq_false, Bool.false_or] at hlistens
  obtain ⟨s, hs⟩ : ∃ s, h₀.seats[seat]? = some s := by
    cases hs : h₀.seats[seat]? with
    | some s => exact ⟨s, rfl⟩
    | none =>
      rw [hs] at hready
      cases hready
  rw [Hub.step, if_pos hready, Hub.say]
  cases hmessage : Message.ofText? text with
  | none => exact h.say_unrecognized hs hmessage
  | some m => exact h.say_message hs hmessage

/-- Who made a decision has a seat. -/
theorem Replied.present (h : Replied su seat said h₀) (ht : t ∈ h₀.tasks)
    (hfrom : t.isFrom seat = true) : ∃ s, h₀.seats[seat]? = some s := by
  have hmem : t ∈ h₀.decisionsFrom seat := List.mem_filter.mpr ⟨ht, hfrom⟩
  cases hseat : h₀.seats[seat]? with
  | some s => exact ⟨s, rfl⟩
  | none =>
    have hdecisions := h.decisions
    rw [h.absent hseat, List.filterMap_nil, List.forall₂_nil_left_iff] at hdecisions
    rw [hdecisions] at hmem
    cases hmem

/-- A call says something to its seat once, when it comes to its end. -/
theorem Replied.work (h : Replied su seat said h₀) (task : Nat) (m : Moment) :
    Replied su seat said (h₀.work su task m) := by
  cases hget : h₀.tasks[task]? with
  | none =>
    rw [work_of_none su m hget]
    exact h
  | some t =>
    cases hdone : t.call.isDone with
    | true =>
      have hsame : h₀.work su task m = h₀ := by
        rw [Hub.work, hget]
        dsimp only
        rw [if_pos hdone]
      rw [hsame]
      exact h
    | false =>
      obtain ⟨before, after, hbefore, hset, -⟩ := exists_split hget
      have htasks := (work_of_get su m hget).2
      have hrefusals := refusalsAt_work su m hget hdone
        (h.present (List.mem_of_getElem? hget))
      have hanswer : answerTo? seat t = none := answerTo?_of_not_done hdone
      rw [hset] at htasks
      generalize ht' : { t with call := (t.call.step su m h₀.desk).1 } = t' at hrefusals htasks
      have hdecides (message : Message) (ht : t.Decides su seat message) :
          t'.Decides su seat message := by
        subst ht'
        exact ⟨ht.sender, ht.call.tail ⟨m, h₀.desk, rfl⟩⟩
      have hfrom : t'.isFrom seat = t.isFrom seat := by rw [← ht']; rfl
      refine ⟨fun hnone => h.absent (seat_absent_before (a := .work task m) hnone), ?_, ?_⟩
      · have hdecisions := h.decisions
        rw [decisionsFrom, hbefore, List.filter_append, List.filter_cons] at hdecisions
        rw [decisionsFrom, htasks, List.filter_append, List.filter_cons, hfrom]
        split_ifs at hdecisions ⊢
        · exact forall₂_replace hdecisions hdecides
        · exact hdecisions
      · have hold := h.refusals
        rw [answers, hbefore, List.filterMap_append, List.filterMap_cons, hanswer] at hold
        rw [hrefusals, answers, htasks, List.filterMap_append, List.filterMap_cons]
        cases answerTo? seat t' with
        | none => rwa [Option.toList_none, List.append_nil]
        | some f =>
          have hlast := hold.append_right [f]
          rw [List.append_assoc, List.append_assoc] at hlast
          apply hlast.trans
          -- what is said now stands where the call stands, and not behind what was said before
          apply List.Perm.append_left
          apply List.Perm.append_left
          exact List.perm_append_comm

/-- What others say is nothing to the seat. -/
theorem Replied.say_elsewhere (h : Replied su seat said h₀) {i : Nat} (hi : i ≠ seat)
    (text : String) : Replied su seat said (h₀.step su (.say i text)) := by
  rw [Hub.step]
  split
  · rw [Hub.say]
    cases Message.ofText? text with
    | none =>
      have habsent : (h₀.atSeat i (·.refuse .unrecognized)).seats[seat]? = none →
          h₀.seats[seat]? = none := by simp [atSeat]
      exact h.of_same [] habsent (refusalsAt_of_ne h₀ hi _) (List.append_nil _).symm
        (List.forall_mem_nil _)
    | some m =>
      refine h.of_same [⟨.review m.review, some (i, m.proposal)⟩] id rfl rfl ?_
      intro t ht
      rw [List.mem_singleton.mp ht]
      exact beq_false_of_ne hi
  · exact h

theorem Replied.step (h : Replied su seat said h₀) {a : Act} (hlistens : h₀.listens seat a = true) :
    Replied su seat (said ++ saidFrom seat [a]) (h₀.step su a) := by
  have hnothing : Replied su seat (said ++ []) h₀ := by rwa [List.append_nil]
  have habsent : (h₀.step su a).seats[seat]? = none → h₀.seats[seat]? = none :=
    seat_absent_before
  -- what happens at a seat and leaves it its refusals
  have hsame (i : Nat) (f : Seat → Seat) (hf : ∀ s, (f s).refusals = s.refusals)
      (hstep : h₀.step su a = h₀.atSeat i f) : Replied su seat (said ++ []) (h₀.step su a) := by
    refine hnothing.of_same [] habsent ?_ ?_ (List.forall_mem_nil _)
    · rw [hstep, refusalsAt_of_same h₀ i seat hf]
    · rw [hstep, List.append_nil]
      rfl
  cases a with
  | join =>
    exact hnothing.of_same [] habsent (h₀.refusalsAt_join _ seat) (List.append_nil _).symm
      (List.forall_mem_nil _)
  | greet i => exact hsame i _ (fun s => s.refusals_greet _) rfl
  | hear i => exact hsame i _ (fun s => s.refusals_hear _) rfl
  | pass i => exact hsame i _ (fun s => s.refusals_pass) rfl
  | leave i => exact hsame i (fun s => { s with isOpen := false }) (fun _ => rfl) rfl
  | ask c =>
    refine hnothing.of_same [⟨c, none⟩] habsent rfl rfl ?_
    intro t ht
    rw [List.mem_singleton.mp ht]
    rfl
  | work task m => exact hnothing.work task m
  | say i text =>
    by_cases hi : i = seat
    · subst hi
      have hsaid : saidFrom i [.say i text] = [text] := by simp [saidFrom]
      rw [hsaid]
      exact h.say text hlistens
    · have hsaid : saidFrom seat [.say i text] = [] := by simp [saidFrom, hi]
      rw [hsaid]
      exact hnothing.say_elsewhere hi text

end Hub

/-! ### Coming to rest -/

/-- How much is still to be sent to a seat. -/
def Seat.left (told : List Proposal.Event) (s : Seat) : Nat :=
  if s.isReady then s.waiting.length + (told.length - s.heard) else 0

namespace Hub

variable {su : Setup} {h : Hub} {seat : Nat}

end Hub

end Feed
end Signoff
