import Signoff.Decision
import Signoff.Execution.Span
import Signoff.Text.Numeral

/-!
Settings, read from named texts. A name that is not set, or set to blanks, has its default; one that
is set to something that makes no sense is an error.
-/

namespace Signoff

structure Settings where
  /-- The file of the store. -/
  path : String
  /-- The number in the address that the service listens at. -/
  listenAt : Nat
  /-- Policies that are less sure than this never propose anything. -/
  floor : Double
  /-- How many seconds a handler may take. -/
  boundSeconds : Nat
  /-- Where actions are carried out; without it each of them fails. -/
  webhook : Option String
  /-- The types of actions that have a handler. -/
  actionTypes : List String

namespace Settings

/-- What is wrong with a setting. -/
inductive Fault where
  | notWhole (text : String) (f : Numeral.Fault)
  | notNumber (text : String)
  | outsideUnit (x : Double.Reading)
  | tooShort
  | notUrl (text : String)
  deriving DecidableEq, Repr

/-- A number in messages. -/
def readingText : Double.Reading → String
  | .nan => "NaN"
  | .infinite false => "inf"
  | .infinite true => "-inf"
  | .finite x => x.text .plain

def Fault.text : Fault → String
  | .notWhole text f => "'" ++ text ++ "': " ++ f.text
  | .notNumber text => "'" ++ text ++ "': invalid float literal"
  | .outsideUnit x => readingText x ++ " is outside 0..1"
  | .tooShort => "must be at least 1"
  | .notUrl text => "'" ++ text ++ "' is not an http(s) URL"

/-- A setting that makes no sense. -/
structure Error where
  key : String
  fault : Fault
  deriving DecidableEq, Repr

def Error.message (e : Error) : String :=
  "Invalid configuration value for " ++ e.key ++ ": " ++ e.fault.text

def pathKey : String := "INBOX_POLICY_DB_PATH"

def listenKey : String := "INBOX_POLICY_PORT"

def floorKey : String := "INBOX_POLICY_MIN_CONFIDENCE"

def boundKey : String := "INBOX_POLICY_EXECUTOR_TIMEOUT_SECS"

def webhookKey : String := "INBOX_POLICY_WEBHOOK_URL"

def actionsKey : String := "INBOX_POLICY_ACTIONS"

/-- The names of all settings. -/
def keys : List String := [pathKey, listenKey, floorKey, boundKey, webhookKey, actionsKey]

/-- What holds when nothing is set. -/
def default : Settings where
  path := "./data/inbox-policy.db"
  listenAt := 8080
  floor := Decision.defaultFloor
  boundSeconds := 30
  webhook := none
  actionTypes := ["archive", "label", "mark_read", "create_task", "create_event"]

def maxListen : Nat := 0xffff

def maxSeconds : Nat := 0xffffffffffffffff

/-- Reads a number between nought and one. -/
def unit (text : String) : Except Fault Double :=
  match Double.read? text with
  | none => .error (.notNumber text)
  | some (.finite x) => if x.inUnit then .ok x else .error (.outsideUnit (.finite x))
  | some x => .error (.outsideUnit x)

/-- Reads the length of a span. -/
def seconds (text : String) : Except Fault Nat := do
  let n ← (Numeral.natural maxSeconds text).mapError (.notWhole text)
  if n = 0 then .error .tooShort else .ok n

/-- Reads a web address. -/
def url (text : String) : Except Fault String :=
  if "http://".isPrefixOf text || "https://".isPrefixOf text then .ok text
  else .error (.notUrl text)

/-- Reads a list of names. -/
def names (text : String) : List String :=
  ((Text.split ',' text).map Text.trim).filter (!·.isEmpty)

/-- The text under a name, if it says anything. -/
def said (get : String → Option String) (key : String) : Option String :=
  ((get key).map Text.trim).filter (!·.isEmpty)

/-- What a name is set to, or a default. -/
def setting {α : Type} (get : String → Option String) (key : String) (otherwise : α)
    (read : String → Except Fault α) : Except Error α :=
  match said get key with
  | none => .ok otherwise
  | some text => (read text).mapError fun f => ⟨key, f⟩

/-- The settings that named texts say. -/
def ofLookup (get : String → Option String) : Except Error Settings := do
  let path ← setting get pathKey default.path .ok
  let listenAt ← setting get listenKey default.listenAt fun s =>
    (Numeral.natural maxListen s).mapError (.notWhole s)
  let floor ← setting get floorKey default.floor unit
  let boundSeconds ← setting get boundKey default.boundSeconds seconds
  let webhook ← setting get webhookKey none fun s => (url s).map some
  let actionTypes ← setting get actionsKey default.actionTypes fun s => .ok (names s)
  return { path, listenAt, floor, boundSeconds, webhook, actionTypes }

end Settings
end Signoff
