import Signoff.Desk.Call
import Signoff.Feed.Message

/-!
Reviewers at their seats. Whoever takes a seat is sent all that is pending, and from then on every
announcement since the seat was taken. Decisions are made beside the feed, by calls that go on at the
same time; their successes are announced to all, and a refusal goes back to its sender alone.
-/

namespace Signoff.Feed

/-- A seat. -/
structure Seat where
  /-- How many announcements are behind it: sent to it, or made before it was taken. -/
  heard : Nat
  /-- Whether it was told what is pending. -/
  greeted : Bool
  /-- Refusals that are to be sent to it. -/
  waiting : List Frame
  /-- All that was sent to it, in order. -/
  sent : List Frame
  isOpen : Bool

namespace Seat

/-- A seat that is being taken. -/
def new (heard : Nat) : Seat := ⟨heard, false, [], [], true⟩

/-- Whether the seat takes part. -/
def isReady (s : Seat) : Bool := s.greeted && s.isOpen

def send (s : Seat) (f : Frame) : Seat := { s with sent := s.sent ++ [f] }

/-- Puts a refusal with those that are to be sent. -/
def refuse (s : Seat) (f : Frame) : Seat := { s with waiting := s.waiting ++ [f] }

/-- Tells what is pending; nothing when that cannot be read. -/
def greet (s : Seat) (store : Store) : Seat :=
  if s.greeted then s
  else
    match Review.pending store with
    | .ok ps => { s.send (.event (.pendingSync ps)) with greeted := true }
    | .error _ => { s with greeted := true }

/-- Sends the next announcement. -/
def hear (s : Seat) (told : List Proposal.Event) : Seat :=
  if s.isReady then
    match told[s.heard]? with
    | some e => { s.send (.event e) with heard := s.heard + 1 }
    | none => s
  else s

/-- Sends the next refusal. -/
def pass (s : Seat) : Seat :=
  if s.isReady then
    match s.waiting with
    | f :: rest => { s.send f with waiting := rest }
    | [] => s
  else s

end Seat

/-- A call under way. A decision from a seat knows where it came from and what it is about. -/
structure Task where
  call : Call
  sender : Option (Nat × Uuid)

/-- The desk, the seats around it and the calls under way. -/
structure Hub where
  desk : Desk
  seats : List Seat
  tasks : List Task

/-- What happens at the desk, one thing at a time. -/
inductive Act where
  /-- Someone takes a seat. -/
  | join
  | greet (seat : Nat)
  | say (seat : Nat) (text : String)
  | hear (seat : Nat)
  | pass (seat : Nat)
  | leave (seat : Nat)
  /-- A call comes in from elsewhere. -/
  | ask (c : Call)
  /-- A call makes a step. -/
  | work (task : Nat) (m : Moment)

namespace Hub

def ofDesk (d : Desk) : Hub := ⟨d, [], []⟩

/-- Changes a seat. -/
def atSeat (h : Hub) (seat : Nat) (f : Seat → Seat) : Hub :=
  { h with seats := h.seats.modify seat f }

/-- What a call says to its sender at its end. -/
def answer? (t : Task) : Option (Nat × Frame) :=
  match t.sender, t.call with
  | some (seat, id), .review (.done (.error e)) => some (seat, .refused id e)
  | _, _ => none

/-- Takes a text from a seat. -/
def say (h : Hub) (seat : Nat) (text : String) : Hub :=
  match Message.ofText? text with
  | none => h.atSeat seat (·.refuse .unrecognized)
  | some m => { h with tasks := h.tasks ++ [⟨.review m.review, some (seat, m.proposal)⟩] }

/-- Makes a step of a call; one that ends with it answers its sender. -/
def work (su : Setup) (h : Hub) (task : Nat) (m : Moment) : Hub :=
  match h.tasks[task]? with
  | none => h
  | some t =>
    if t.call.isDone then h
    else
      let (call, desk) := t.call.step su m h.desk
      let t := { t with call }
      let h := { h with desk, tasks := h.tasks.set task t }
      match answer? t with
      | some (seat, f) => h.atSeat seat (·.refuse f)
      | none => h

def step (su : Setup) (h : Hub) : Act → Hub
  | .join => { h with seats := h.seats ++ [.new h.desk.told.length] }
  | .greet seat => h.atSeat seat (·.greet h.desk.store)
  | .say seat text => if (h.seats[seat]?).any (·.isReady) then h.say seat text else h
  | .hear seat => h.atSeat seat (·.hear h.desk.told)
  | .pass seat => h.atSeat seat (·.pass)
  | .leave seat => h.atSeat seat fun s => { s with isOpen := false }
  | .ask c => { h with tasks := h.tasks ++ [⟨c, none⟩] }
  | .work task m => work su h task m

/-- Everything that happens, in order. -/
def run (su : Setup) (h : Hub) (acts : List Act) : Hub := acts.foldl (step su) h

end Hub
end Signoff.Feed
