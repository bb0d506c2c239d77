import Signoff.Store.Error

/-!
The tables, indexes and triggers of the store, and the migrations that make them. A run reads the
version once, and then goes through the statements of every later migration; each statement either
takes effect or does not, and making what is there already changes nothing.
-/

namespace Signoff.Store

/-- What a database can hold besides rows. -/
inductive Object where
  | policies
  | policiesOrder
  | proposals
  | proposalsStatus
  | proposalsRecord
  | proposalsPending
  | ledger
  | ledgerActionType
  | ledgerOutcome
  | ledgerCreated
  | ledgerProposal
  | ledgerNoUpdate
  | ledgerNoDelete
  deriving DecidableEq, Repr

/-- The table that an index or a trigger belongs to. -/
def Object.table? : Object → Option Object
  | .policies => none
  | .policiesOrder => some .policies
  | .proposals => none
  | .proposalsStatus => some .proposals
  | .proposalsRecord => some .proposals
  | .proposalsPending => some .proposals
  | .ledger => none
  | .ledgerActionType => some .ledger
  | .ledgerOutcome => some .ledger
  | .ledgerCreated => some .ledger
  | .ledgerProposal => some .ledger
  | .ledgerNoUpdate => some .ledger
  | .ledgerNoDelete => some .ledger

/-- What there is in a database, and which versions are on record; none while there is no place to
record them. -/
structure Schema where
  objects : List Object
  versions : Option (List Int)
  deriving DecidableEq, Repr

/-- One step of a migration. -/
inductive Statement where
  | makeVersions
  | make (o : Object)
  | record (version : Int)
  deriving DecidableEq, Repr

/-- A step from one version to the next. -/
structure Migration where
  version : Int
  name : String
  objects : List Object

namespace Migration

/-- All migrations, oldest first. -/
def all : List Migration :=
  [⟨1, "initial_schema", [.policies, .policiesOrder, .proposals, .proposalsStatus, .proposalsRecord,
      .proposalsPending, .ledger, .ledgerActionType, .ledgerOutcome, .ledgerCreated,
      .ledgerProposal]⟩,
    ⟨2, "audit_append_only", [.ledgerNoUpdate, .ledgerNoDelete]⟩]

/-- What a migration does: it makes its objects, and then it is on record. -/
def statements (m : Migration) : List Statement := m.objects.map .make ++ [.record m.version]

/-- The error of a migration that broke off. -/
def failed (m : Migration) : Error :=
  .migration ("Migration V" ++ toString m.version ++ " (" ++ m.name ++ ") failed")

end Migration

namespace Schema

/-- A database without anything in it. -/
def empty : Schema := ⟨[], none⟩

def has (s : Schema) (o : Object) : Bool := s.objects.contains o

/-- The latest version on record, zero when there is none. -/
def version (s : Schema) : Int := (s.versions.getD []).foldl max 0

/-- Makes an object, unless it is there; an index or a trigger needs its table. -/
def make (s : Schema) (o : Object) : Option Schema :=
  if s.has o then some s
  else if o.table?.all s.has then some { s with objects := s.objects ++ [o] }
  else none

/-- Puts a version on record, once. -/
def record (s : Schema) (v : Int) : Schema :=
  let versions := s.versions.getD []
  { s with versions := some (if versions.contains v then versions else versions ++ [v]) }

/-- Carries out one statement; none when it fails. -/
def execute (s : Schema) : Statement → Option Schema
  | .makeVersions => some { s with versions := some (s.versions.getD []) }
  | .make o => s.make o
  | .record v => some (s.record v)

/-- Carries out statements until one fails; says whether all went through. -/
def executeAll (s : Schema) : List Statement → Schema × Bool
  | [] => (s, true)
  | x :: rest =>
    match s.execute x with
    | some s => executeAll s rest
    | none => (s, false)

/-- The migrations that a run has to do. -/
def due (s : Schema) : List Migration := Migration.all.filter (s.version < ·.version)

/-- The statements of a run, which starts by making sure that versions can be recorded. -/
def plan (s : Schema) : List Statement := .makeVersions :: s.due.flatMap Migration.statements

/-- Does migrations one after the other, and stops at one that fails. -/
def migrateWith (s : Schema) : List Migration → Schema × Except Error Unit
  | [] => (s, .ok ())
  | m :: rest =>
    match s.executeAll m.statements with
    | (s, true) => migrateWith s rest
    | (s, false) => (s, .error m.failed)

/-- A whole run. -/
def migrate (s : Schema) : Schema × Except Error Unit :=
  migrateWith { s with versions := some (s.versions.getD []) } s.due

end Schema
end Signoff.Store
