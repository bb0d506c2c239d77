import Mathlib
import Signoff.Feed.Hub
import Signoff.Proofs.Desk.Tidy

/-!
What somebody at a seat makes of all that is sent there: the set of proposals that are pending, as far
as is known at the seat. Announcements may come again that were made before the seat was told what is
pending. They do no harm when the later ones among them come again too, since the last word on a
proposal is the one that counts.
-/

namespace Signoff

namespace Proposal.Event

/-- The proposals that are taken to be pending after an announcement. -/
def update (v : Set Proposal) : Event → Set Proposal
  | pendingSync proposals => {p | p ∈ proposals}
  | proposed p => insert p v
  | statusChanged id _ _ => {p ∈ v | p.id ≠ id}

/-- The proposals that are taken to be pending after announcements in their order. -/
def replay (events : List Event) (v : Set Proposal) : Set Proposal := events.foldl update v

variable {e : Event} {events log : List Event} {v w : Set Proposal} {p : Proposal} {first : Nat}

theorem replay_append (events later : List Event) (v : Set Proposal) :
    replay (events ++ later) v = replay later (replay events v) := List.foldl_append

/-- An announcement has the last word on a proposal, or says nothing about it. -/
theorem decides_or_leaves (e : Event) (p : Proposal) :
    (∀ v w, p ∈ e.update v ↔ p ∈ e.update w) ∨ ∀ v, p ∈ e.update v ↔ p ∈ v := by
  -- an event says all of one proposal and nothing of the others; a sync says all of all
  cases e with
  | pendingSync proposals =>
    left
    intro v w
    exact Iff.rfl
  | proposed q =>
    by_cases hq : p = q
    · left
      intro v w
      simp [update, hq]
    · right
      intro v
      simp [update, hq]
  | statusChanged id status error =>
    by_cases hid : p.id = id
    · left
      intro v w
      simp [update, hid]
    · right
      intro v
      simp [update, hid]

/-- What is known of a proposal at the end depends on what was known of it at the start, and on no
other proposal. -/
theorem replay_congr (events : List Event) (h : p ∈ v ↔ p ∈ w) :
    p ∈ replay events v ↔ p ∈ replay events w := by
  -- the two sets agree on `p` after each announcement, whatever becomes of the others
  induction events generalizing v w with
  | nil => exact h
  | cons e events ih =>
    apply ih
    rcases e.decides_or_leaves p with hdecides | hleaves
    · exact hdecides v w
    · rw [hleaves, hleaves]
      exact h

/-- It makes no difference that an announcement was known before what it follows. -/
theorem update_replay_update (e : Event) (events : List Event) (v : Set Proposal) :
    e.update (replay events (e.update v)) = e.update (replay events v) := by
  ext p
  rcases e.decides_or_leaves p with hdecides | hleaves
  · exact hdecides _ _
  · rw [hleaves, hleaves]
    exact replay_congr events (hleaves v)

/-- A set that stays as it is when the end of a log is told again, from wherever after a place. -/
def Stable (first : Nat) (log : List Event) (v : Set Proposal) : Prop :=
  ∀ k, first ≤ k → replay (log.drop k) v = v

theorem Stable.append (h : Stable first log v) (e : Event) :
    Stable first (log ++ [e]) (e.update v) := by
  intro k hk
  by_cases hlength : k ≤ log.length
  · rw [List.drop_append_of_le_length hlength, replay_append]
    -- the new announcement comes last, so that it was known before changes nothing
    calc
      e.update (replay (log.drop k) (e.update v)) = e.update (replay (log.drop k) v) :=
        update_replay_update e _ v
      _ = e.update v := by rw [h k hk]
  · have hnone : (log ++ [e]).drop k = [] := by
      apply List.drop_eq_nil_of_le
      rw [List.length_append, List.length_singleton]
      omega
    rw [hnone]
    rfl

end Proposal.Event

namespace Feed

open Proposal

/-- The proposals that are taken to be pending after a frame. -/
def Frame.update (v : Set Proposal) : Frame → Set Proposal
  | event e => e.update v
  | refusal _ _ => v

/-- The proposals that are taken to be pending after frames in their order. -/
def watch (frames : List Frame) : Set Proposal := frames.foldl Frame.update ∅

theorem watch_append_event (frames : List Frame) (e : Event) :
    watch (frames ++ [.event e]) = e.update (watch frames) := by
  rw [watch, List.foldl_append]
  rfl

/-- Refusals say nothing of what is pending. -/
theorem watch_append_refusals (frames : List Frame) {refusals : List Frame}
    (h : ∀ f ∈ refusals, ∃ id message, f = .refusal id message) :
    watch (frames ++ refusals) = watch frames := by
  rw [watch, List.foldl_append, ← watch]
  generalize watch frames = v
  induction refusals with
  | nil => rfl
  | cons f rest ih =>
    obtain ⟨id, message, rfl⟩ := h f List.mem_cons_self
    exact ih fun g hg => h g (List.mem_cons_of_mem _ hg)

namespace Seat

/-- What can happen at a seat, given what is stored and what was told. -/
inductive Changes (store : Store) (told : List Event) (s s' : Seat) : Prop
  /-- Refusals are sent that waited, or come to wait. -/
  | aside (refusals : List Frame) (hsent : s'.sent = s.sent ++ refusals)
    (hpassed : ∀ f ∈ refusals, f ∈ s.waiting)
    (hwaiting : ∀ f ∈ s'.waiting, f ∈ s.waiting ∨ ∃ id message, f = .refusal id message)
    (hsilent : s.greeted = false → refusals = []) (hgreeted : s'.greeted = s.greeted)
    (hheard : s'.heard = s.heard)
  | hears (e : Event) (hgreeted : s.greeted = true) (he : told[s.heard]? = some e)
    (hs : s' = { s.send (.event e) with heard := s.heard + 1 })
  | greets (hgreeted : s.greeted = false) (hs : s' = s.greet store)

variable {store : Store} {told log : List Event} {v : Set Proposal} {s s' : Seat} {first : Nat}

theorem Changes.refl (s : Seat) : Changes store told s s :=
  .aside [] (List.append_nil _).symm (fun _ h => nomatch h) (fun _ h => .inl h) (fun _ => rfl) rfl rfl

theorem changes_leave (s : Seat) : Changes store told s { s with isOpen := false } :=
  .aside [] (List.append_nil _).symm (fun _ h => nomatch h) (fun _ h => .inl h) (fun _ => rfl) rfl rfl

theorem changes_greet (s : Seat) : Changes store told s (s.greet store) := by
  by_cases hgreeted : s.greeted = true
  · rw [greet, if_pos hgreeted]
    exact .refl s
  · exact .greets (Bool.eq_false_of_not_eq_true hgreeted) rfl

theorem changes_hear (s : Seat) : Changes store told s (s.hear told) := by
  rw [hear]
  split
  · next hready =>
    split
    · next e he => exact .hears e (Bool.and_elim_left hready) he rfl
    · exact .refl s
  · exact .refl s

theorem changes_pass (s : Seat) : Changes store told s s.pass := by
  rw [pass]
  split
  · next hready =>
    have hgreeted : s.greeted = true := Bool.and_elim_left hready
    split
    · next f rest hwaiting =>
      refine .aside [f] rfl ?_ ?_ ?_ rfl rfl
      · intro g hg
        rw [List.mem_singleton.mp hg, hwaiting]
        exact List.mem_cons_self
      · intro g hg
        rw [hwaiting]
        exact .inl (List.mem_cons_of_mem f hg)
      · intro hno
        rw [hgreeted] at hno
        cases hno
    · exact .refl s
  · exact .refl s

theorem changes_refuse (s : Seat) (id : Option Uuid) (message : String) :
    Changes store told s (s.refuse (.refusal id message)) := by
  refine .aside [] (List.append_nil _).symm (fun _ h => nomatch h) ?_ (fun _ => rfl) rfl rfl
  intro f hf
  rcases List.mem_append.mp hf with hf | hf
  · exact .inl hf
  · exact .inr ⟨id, message, List.mem_singleton.mp hf⟩

/-- What holds of every seat: it hears what was told from some place on, refusals wait for it and
nothing else does, and nothing is sent to it before it is greeted. -/
structure Placed (first : Nat) (told : List Event) (s : Seat) : Prop where
  after : first ≤ s.heard
  bound : s.heard ≤ told.length
  waiting : ∀ f ∈ s.waiting, ∃ id message, f = .refusal id message
  silent : s.greeted = false → s.sent = []

theorem placed_new (h : first ≤ told.length) : (new told.length).Placed first told :=
  ⟨h, le_refl _, (fun _ hf => nomatch hf), fun _ => rfl⟩

theorem greet_of_not_greeted (store : Store) (h : s.greeted = false) :
    (s.greet store).greeted = true ∧ (s.greet store).heard = s.heard ∧
      (s.greet store).waiting = s.waiting := by
  have hno : ¬ s.greeted = true := by simp [h]
  rw [greet, if_neg hno]
  split <;> exact ⟨rfl, rfl, rfl⟩

theorem Placed.changes (h : s.Placed first told) (hc : Changes store told s s') :
    s'.Placed first told := by
  -- its place in the stream goes on when it hears, and else stays
  cases hc with
  | aside refusals hsent hpassed hwaiting hsilent hgreeted hheard =>
    refine ⟨hheard ▸ h.after, hheard ▸ h.bound, ?_, ?_⟩
    · intro f hf
      rcases hwaiting f hf with hf | hf
      · exact h.waiting f hf
      · exact hf
    · intro hno
      rw [hgreeted] at hno
      rw [hsent, h.silent hno, hsilent hno]
      rfl
  | hears e hgreeted he hs =>
    have hlt : s.heard < told.length := (List.getElem?_eq_some_iff.mp he).1
    subst hs
    refine ⟨h.after.trans (Nat.le_succ _), hlt, h.waiting, ?_⟩
    intro hno
    exact absurd (hgreeted.symm.trans hno) (by decide)
  | greets hgreeted hs =>
    obtain ⟨hgreeted', hheard, hwaiting⟩ := greet_of_not_greeted store hgreeted
    rw [← hs] at hgreeted' hheard hwaiting
    refine ⟨hheard ▸ h.after, hheard ▸ h.bound, hwaiting ▸ h.waiting, ?_⟩
    intro hno
    exact absurd (hgreeted'.symm.trans hno) (by decide)

theorem Placed.mono {told' : List Event} (h : s.Placed first told)
    (hlength : told.length ≤ told'.length) : s.Placed first told' :=
  ⟨h.after, h.bound.trans hlength, h.waiting, h.silent⟩

/-- A seat that is on the way to a set: it was told all that is pending, and comes to the set once it
has heard the rest of the log. -/
structure Follows (log : List Event) (v : Set Proposal) (s : Seat) : Prop where
  greeted : s.greeted = true
  synced : ∃ proposals rest, s.sent = .event (.pendingSync proposals) :: rest
  agrees : Event.replay (log.drop s.heard) (watch s.sent) = v

theorem Follows.changes {due : List Event} (h : s.Follows (told ++ due) v)
    (hp : s.Placed first told) (hc : Changes store told s s') : s'.Follows (told ++ due) v := by
  obtain ⟨proposals, rest, hsynced⟩ := h.synced
  cases hc with
  | aside refusals hsent hpassed _ _ hgreeted hheard =>
    refine ⟨hgreeted.trans h.greeted, ⟨proposals, rest ++ refusals, ?_⟩, ?_⟩
    · rw [hsent, hsynced, List.cons_append]
    · have hrefusals : ∀ f ∈ refusals, ∃ id message, f = .refusal id message :=
        fun f hf => hp.waiting f (hpassed f hf)
      rw [hheard, hsent, watch_append_refusals _ hrefusals]
      exact h.agrees
  | hears e hgreeted he hs =>
    obtain ⟨hlt, hget⟩ := List.getElem?_eq_some_iff.mp he
    -- what is heard next is the first of what there was to hear
    have hdrop : (told ++ due).drop s.heard = e :: (told ++ due).drop (s.heard + 1) := by
      rw [List.drop_append_of_le_length hlt.le, List.drop_append_of_le_length hlt,
        List.drop_eq_getElem_cons hlt, hget, List.cons_append]
    subst hs
    refine ⟨hgreeted, ⟨proposals, rest ++ [.event e], ?_⟩, ?_⟩
    · rw [send, hsynced, List.cons_append]
    · have hagrees := h.agrees
      rw [hdrop] at hagrees
      rw [send, watch_append_event]
      exact hagrees
  | greets hgreeted _ => exact absurd (h.greeted.symm.trans hgreeted) (by decide)

/-- What is written is on its way to the seat when it is in the log. -/
theorem Follows.append (h : s.Follows log v) (hlength : s.heard ≤ log.length) (e : Event) :
    s.Follows (log ++ [e]) (e.update v) := by
  refine ⟨h.greeted, h.synced, ?_⟩
  rw [List.drop_append_of_le_length hlength, Event.replay_append, h.agrees]
  rfl

end Seat
end Feed
end Signoff
