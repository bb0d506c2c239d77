import Signoff.Execution.Registry
import Signoff.Proposal.Event
import Signoff.Store.Ledger
import Signoff.Store.Policies

/-!
The desk: the store, what reviewers were told, and which actions were handed to a handler. Every
call works on it in small steps, each of them one statement or one announcement, so that the steps
of several calls can come in any order.
-/

namespace Signoff

/-- What happens when an action is handed to its handler. -/
structure Dispatch where
  proposal : Uuid
  actionType : String
  deriving DecidableEq

/-- The desk. -/
structure Desk where
  store : Store
  /-- What reviewers were told, in order. -/
  told : List Proposal.Event
  /-- The actions that were handed to handlers, in order. -/
  dispatched : List Dispatch

/-- What a step finds around it: the time, and an identifier that nobody used. -/
structure Moment where
  now : Instant
  fresh : Uuid

/-- What the desk works with: the handlers, and the least confidence asked for. -/
structure Setup where
  registry : Registry
  floor : Double

namespace Desk

def empty : Desk := ⟨.empty, [], []⟩

/-- Tells reviewers. -/
def tell (d : Desk) (e : Proposal.Event) : Desk := { d with told := d.told ++ [e] }

/-- Hands an action to its handler. -/
def dispatch (d : Desk) (p : Proposal) : Desk :=
  { d with dispatched := d.dispatched ++ [⟨p.id, p.actionType⟩] }

/-- Makes a change in the store. -/
def on {α : Type} (d : Desk) (f : Store → Store.Reply α) : Except Store.Error α × Desk :=
  let (result, store) := f d.store
  (result, { d with store := store })

end Desk
end Signoff
