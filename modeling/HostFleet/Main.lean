import HostFleet.Launch

/-! # The command line

Reads the environment and the configuration file, and runs the program with them. A started controller
has the listeners of a loopback network and stays until its input ends.
-/

set_option autoImplicit false

namespace HostFleet.Main

/-- The variables that are looked at. -/
def names : List String :=
  ["FLEET_MULTICAST_ADDR", "FLEET_PROXY_ADDR", "FLEET_MONITOR_ADDR", "FLEET_INTERNAL_ADDR",
    "FLEET_TIMEOUT", "FLEET_HOSTNAME"]

def environment : IO Settings.Environment := do
  let found ← names.mapM fun name => do
    return (← IO.getEnv name).map fun value => (name, Bytes.ofText value)
  return found.filterMap id

/-- Why a file cannot be read. -/
def reason : IO.Error → String
  | .noFileOrDirectory .. => "No such file or directory (os error 2)"
  | .inappropriateType .. => "Is a directory (os error 21)"
  | .permissionDenied .. => "Permission denied (os error 13)"
  | e => toString e

/-- The text of a file, or why there is none. -/
def sourceAt (path : String) : IO Settings.Source := do
  try
    match Bytes.text? (← IO.FS.readBinFile path).data.toList with
    | some text => return .text text
    | none => return .unreadable path "stream did not contain valid UTF-8"
  catch e => return .unreadable path (reason e)

/-- The named file, or the one in the user's home if it is there. -/
def source (explicit : Option String) : IO Settings.Source := do
  match explicit, ← IO.getEnv "HOME" with
  | some path, _ => sourceAt path
  | none, some home =>
    match ← sourceAt (configFile home) with
    | .unreadable _ "No such file or directory (os error 2)" => return .missing
    | found => return found
  | none, none => return .missing

/-- Shows how a run went. -/
def report (outcome : Launch.Outcome) : IO Unit := do
  match outcome with
  | .usage why => IO.eprintln ("usage: " ++ why.name)
  | .noLog => IO.eprintln "the log cannot be written"
  | .refused fault => IO.eprint (Launch.faultText fault)
  | .printed text => IO.print text
  | .serving => do
    IO.println "Controller started"
    let _ ← (← IO.getStdin).getLine
  | .failed fault => IO.eprintln ("Controller failed: " ++ fault.message)

end HostFleet.Main

open HostFleet in
def main (args : List String) : IO UInt32 := do
  let outcome ← match CommandLine.parse args with
    | .error .displayVersion => pure (Launch.Outcome.printed Launch.versionText)
    | .error why => pure (.usage why)
    | .ok line => do
      let env ← HostFleet.Main.environment
      let found ← HostFleet.Main.source line.config
      pure (Launch.resume (.empty true) env found line.command)
  HostFleet.Main.report outcome
  return UInt32.ofNat outcome.exitCode
