import Signoff.Desk.Authoring
import Signoff.Desk.Intake
import Signoff.Desk.Review

/-!
Calls on the desk, and what happens when several of them go on at once: a schedule says which call
makes the next step, with which handlers, and what that step finds around it.
-/

namespace Signoff

/-- A call under way. -/
inductive Call where
  | review (r : Review)
  | intake (i : Intake)
  | authoring (a : Authoring)
  /-- A dry run that is to be made. -/
  | dryRun (request : DryRun)
  | dryRunDone (r : Except Authoring.Error DryRun.Report)

namespace Call

/-- One step of a call. -/
def step (su : Setup) (m : Moment) (d : Desk) : Call → Call × Desk
  | .review r => let (r, d) := r.step su.registry m d; (.review r, d)
  | .intake i => let (i, d) := i.step su.floor m d; (.intake i, d)
  | .authoring a => let (a, d) := a.step m d; (.authoring a, d)
  | .dryRun request => (.dryRunDone (Authoring.dryRun d.store su.floor request m.now), d)
  | .dryRunDone r => (.dryRunDone r, d)

/-- How many steps are left at most. -/
def left : Call → Nat
  | .review r => r.left
  | .intake i => i.left
  | .authoring a => a.left
  | .dryRun _ => 1
  | .dryRunDone _ => 0

/-- Whether a call has its result. -/
def isDone (c : Call) : Bool := c.left == 0

end Call

/-- Calls under way on one desk. -/
structure Traffic where
  desk : Desk
  calls : List Call

/-- Whose step it is, what the desk works with just then, and what the step finds around it. -/
structure Turn where
  who : Nat
  setup : Setup
  moment : Moment

namespace Traffic

/-- The call at a place makes a step; where there is none, nothing happens. -/
def step (t : Traffic) (x : Turn) : Traffic :=
  match t.calls[x.who]? with
  | none => t
  | some c =>
    let (c, d) := c.step x.setup x.moment t.desk
    ⟨d, t.calls.set x.who c⟩

/-- Steps in the order of a schedule. -/
def run (t : Traffic) (turns : List Turn) : Traffic := turns.foldl step t

end Traffic

namespace Call

/-- Makes a number of steps of one call, each at its moment. -/
def runFor (su : Setup) (moments : Nat → Moment) : Nat → Nat → Call → Desk → Call × Desk
  | 0, _, c, d => (c, d)
  | n + 1, first, c, d =>
    let (c, d) := c.step su (moments first) d
    runFor su moments n (first + 1) c d

/-- Makes all steps of a call without a break, the first at a given place in time. -/
def run (su : Setup) (moments : Nat → Moment) (first : Nat) (c : Call) (d : Desk) : Call × Desk :=
  runFor su moments c.left first c d

end Call
end Signoff
