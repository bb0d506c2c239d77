import Signoff.Desk.Basic
import Signoff.Execution.Webhook
import Signoff.Settings

/-!
Starting the service: settings are read, the store is opened, handlers are put in charge, and the
address is taken, in this order. What goes wrong first ends it.
-/

namespace Signoff

/-- What is found outside when the service starts; a text says why something cannot be had. -/
structure Surroundings where
  setting : String → Option String
  openStore : String → Except String Store
  listen : Nat → Except String Unit

/-- Why the service does not start. -/
inductive Launch.Failure where
  | settings (e : Settings.Error)
  | store (path cause : String)
  | address (text cause : String)
  deriving DecidableEq, Repr

/-- What the start of the service comes to: the lines that are shown, and the desk or a failure. -/
structure Launch where
  banner : List String
  outcome : Except Launch.Failure (Setup × Desk)

namespace Launch

namespace Failure

/-- What was being done. -/
def context : Failure → String
  | .settings _ => "invalid configuration"
  | .store path _ => "failed to open database at " ++ path
  | .address text _ => "failed to bind " ++ text

def cause : Failure → String
  | .settings e => e.message
  | .store _ cause => cause
  | .address _ cause => cause

/-- The lines about a failure, of which those about its cause are indented. -/
def lines (f : Failure) : List String :=
  ["Error: " ++ f.context, "", "Caused by:"] ++ (Text.split '\n' f.cause).map ("    " ++ ·)

end Failure

def version : String := "0.1.0"

/-- The address that the service listens at. -/
def address (s : Settings) : String := "0.0.0.0:" ++ toString s.listenAt

/-- What is shown of the settings. -/
def bannerOf (s : Settings) : List String :=
  ["📬 Inbox Policy v" ++ version,
    "   Database: " ++ s.path,
    "   API: http://" ++ address s ++ "/api",
    "   Events WS: ws://" ++ address s ++ "/ws",
    "   Min confidence: " ++ s.floor.text .plain,
    "   Executor webhook: " ++ s.webhook.getD "(none, approvals will fail)",
    ""]

/-- The handler of a type of action: behind the web address, if there is one. -/
def handlerOf (s : Settings) (network : String → Json → Span × Option Webhook.Reply)
    (actionType : String) : Handler :=
  match s.webhook with
  | some url => Webhook.handler actionType (network url)
  | none => .unconfigured actionType

/-- The handlers that the settings put in charge. -/
def registryOf (s : Settings) (network : String → Json → Span × Option Webhook.Reply) : Registry :=
  s.actionTypes.foldl (fun r a => r.register a (handlerOf s network a))
    (.empty (.ofSeconds s.boundSeconds))

/-- Starts the service up to where requests are taken. -/
def run (around : Surroundings) (network : String → Json → Span × Option Webhook.Reply) : Launch :=
  match Settings.ofLookup around.setting with
  | .error e => ⟨[], .error (.settings e)⟩
  | .ok s =>
    let outcome := do
      let store ← (around.openStore s.path).mapError (.store s.path)
      (around.listen s.listenAt).mapError (.address (address s))
      return (⟨registryOf s network, s.floor⟩, ⟨store, [], []⟩)
    ⟨bannerOf s, outcome⟩

/-- All lines that are shown. -/
def lines (l : Launch) : List String :=
  match l.outcome with
  | .ok _ => l.banner
  | .error f => l.banner ++ f.lines

/-- Nought when the service runs. -/
def exitCode (l : Launch) : Nat :=
  match l.outcome with
  | .ok _ => 0
  | .error _ => 1

end Launch
end Signoff
