import Signoff.Context
import Signoff.Execution.Outcome
import Signoff.Execution.Span

/-!
Handlers of actions, and the registry that picks one. Whatever a handler does, there is an outcome:
one that is missing, breaks down or takes too long has failed.
-/

namespace Signoff

/-- How a handler ends. -/
inductive Ending where
  | finished (o : Outcome)
  | brokeDown

/-- What a handler does with an action: how long it takes, and how it ends. -/
structure Run where
  takes : Span
  ending : Ending

/-- A handler, given the parameters of an action and the record that it is about. -/
abbrev Handler := Json → Snapshot → Run

namespace Handler

/-- The handler of actions for which nobody is there. -/
def unconfigured (actionType : String) : Handler := fun _ _ =>
  ⟨⟨0⟩, .finished (.failure ("no handler credentials configured for '" ++ actionType ++ "'"))⟩

end Handler

/-- The handlers by type of action, and how long one may take. -/
structure Registry where
  handlers : List (String × Handler)
  bound : Span

namespace Registry

/-- How long a handler may take when nothing else is said. -/
def defaultBound : Span := .ofSeconds 30

def empty (bound : Span) : Registry := ⟨[], bound⟩

/-- Puts a handler in charge of a type of action, in place of an earlier one. -/
def register (r : Registry) (actionType : String) (h : Handler) : Registry :=
  { r with handlers := (actionType, h) :: r.handlers.filter (·.1 != actionType) }

def get? (r : Registry) (actionType : String) : Option Handler :=
  (r.handlers.find? (·.1 == actionType)).map (·.2)

def count (r : Registry) : Nat := r.handlers.length

/-- The outcome of a run under a bound. -/
def bounded (bound : Span) (run : Run) : Outcome :=
  if run.takes.nanos < bound.nanos then
    match run.ending with
    | .finished o => o
    | .brokeDown => .failure "executor panicked"
  else .failure ("execution timed out after " ++ bound.text)

/-- Has an action carried out. -/
def execute (r : Registry) (actionType : String) (params : Json) (record : Snapshot) : Outcome :=
  match r.get? actionType with
  | none => .failure "unsupported action type"
  | some h => bounded r.bound (h params record)

end Registry
end Signoff
