import Signoff.Store.Row
import Signoff.Store.Schema

/-!
The store as a value: its schema and the rows of its tables, oldest first. An operation gives its
answer and the store after it; an error says nothing about whether the store changed.
-/

namespace Signoff

structure Store where
  schema : Store.Schema
  policies : List Store.PolicyRow
  /-- The greatest number that the store ever gave to a policy. -/
  lastPolicy : Int
  proposals : List Store.ProposalRow
  ledger : List Store.EntryRow
  deriving DecidableEq, Repr

namespace Store

/-- What an operation answers, and the store that it leaves. -/
abbrev Reply (α : Type) := Except Error α × Store

/-- A store without rows, as migrations leave it. -/
def empty : Store := ⟨Schema.empty.migrate.1, [], 0, [], []⟩

/-- A statement on a table fails where there is no such table. -/
def requires (s : Store) (table : Object) (call : String) : Except Error Unit :=
  if s.schema.has table then .ok () else .error (.query call)

/-- Brings the schema up to date. -/
def migrate (s : Store) : Reply Unit :=
  let (schema, result) := s.schema.migrate
  (result, { s with schema := schema })

/-- What a file holds before it is opened. -/
inductive Medium where
  /-- There is no file yet. -/
  | absent
  /-- A file that is no database. -/
  | garbage
  /-- A file stands where the directory should be. -/
  | blocked
  /-- The path is a directory. -/
  | directory
  /-- A database in which nothing but versions was put on record. -/
  | versions (versions : List Int)
  | database (s : Store)

/-- Opens a file and brings its schema up to date. -/
def ofMedium : Medium → Except Error Store
  | .absent => .ok empty
  | .garbage => .error (.migration "Failed to create _migrations table")
  | .blocked => .error .noDirectory
  | .directory => .error .noConnection
  | .versions versions =>
    match migrate ⟨⟨[], some versions⟩, [], 0, [], []⟩ with
    | (.ok _, s) => .ok s
    | (.error e, _) => .error e
  | .database s =>
    match migrate s with
    | (.ok _, s) => .ok s
    | (.error e, _) => .error e

end Store
end Signoff
