import Signoff.Launch

/-!
The program: it starts the service on a store in memory, with the settings of its environment, and
shows the lines of the start. It ends where requests would be taken.
-/

open Signoff

/-- The texts that the environment has under the names of the settings. -/
def environment : IO (List (String × Option String)) :=
  Settings.keys.mapM fun key => return (key, ← IO.getEnv key)

def main : IO UInt32 := do
  let texts ← environment
  let around : Surroundings := {
    setting := fun key => (texts.lookup key).join
    openStore := fun _ => (Store.ofMedium .absent).mapError (·.message)
    listen := fun _ => .ok () }
  let launch := Launch.run around fun _ _ => (⟨0⟩, none)
  for line in launch.lines do
    IO.eprintln line
  return launch.exitCode.toUInt32
