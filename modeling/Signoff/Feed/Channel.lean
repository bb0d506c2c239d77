import Signoff.Desk.Call

/-!
How announcements reach those who listen. The newest are kept until they are heard; whoever falls
too far behind loses the oldest of those that are left.
-/

namespace Signoff.Feed

/-- How many announcements are kept. -/
def capacity : Nat := 256

/-- Someone who listens. -/
structure Listener where
  heard : List Proposal.Event
  /-- How many announcements are behind it, heard or lost. -/
  passed : Nat
  lost : Nat

namespace Listener

/-- Someone who listens from the first announcement on. -/
def new : Listener := ⟨[], 0, 0⟩

/-- Hears the next announcement that is kept. -/
def hear (l : Listener) (told : List Proposal.Event) : Listener :=
  let next := max l.passed (told.length - capacity)
  match told[next]? with
  | some e => ⟨l.heard ++ [e], next + 1, l.lost + (next - l.passed)⟩
  | none => l

end Listener

/-- Calls under way, and someone who listens to what is told. -/
structure Audience where
  traffic : Traffic
  listener : Listener

namespace Audience

/-- A call makes a step, or the listener hears something. -/
def step (a : Audience) : Option Turn → Audience
  | some x => { a with traffic := a.traffic.step x }
  | none => { a with listener := a.listener.hear a.traffic.desk.told }

/-- Steps and moments of hearing in the order of a schedule. -/
def run (a : Audience) (acts : List (Option Turn)) : Audience := acts.foldl step a

end Audience
end Signoff.Feed
