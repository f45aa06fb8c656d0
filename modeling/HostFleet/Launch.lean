import HostFleet.CommandLine
import HostFleet.Controller
import HostFleet.Files
import HostFleet.Logging
import HostFleet.Monitor

/-! # Starting the program

What the program does with its arguments, files and environment.

* `Launch.source`: where the configuration comes from.
* `Launch.run`: how the program ends, or how the start of the controller went.
* `Launch.logs`: the log files afterwards.
-/

set_option autoImplicit false

namespace HostFleet

/-- What the program finds when it starts. -/
structure Launch where
  files : Files
  env : Settings.Environment
  /-- The home of the user. -/
  home : String
  network : Network

namespace Launch

/-- How a run goes until a signal ends it. -/
inductive Outcome where
  | usage (reason : Usage)
  /-- The log cannot be written. -/
  | noLog
  | refused (fault : Fault)
  | printed (text : String)
  | serving
  /-- The controller failed and waits before it starts again. -/
  | failed (fault : Fault)

/-- The code with which the program ends, at the latest by a signal. -/
def Outcome.exitCode : Outcome → Nat
  | usage reason => reason.exitCode
  | noLog => 101
  | refused _ => 1
  | printed _ | serving | failed _ => 0

/-! ## Configuration -/

/-- The text of a file as a source. -/
def sourceAt (l : Launch) (path : String) : Settings.Source :=
  match l.files.read path with
  | .ok text => .text text
  | .error reason => .unreadable path reason

/-- The named file, or the one in the user's home if it is there. -/
def source (l : Launch) (explicit : Option String) : Settings.Source :=
  match explicit with
  | some path => l.sourceAt path
  | none =>
    let path := configFile l.home
    if l.files.isThere path then l.sourceAt path else .missing

def settings (l : Launch) (explicit : Option String) : Except Fault Settings :=
  Settings.resolve (l.source explicit) l.env

/-! ## Running -/

/-- The text of a fault that ends the program. -/
def faultText (fault : Fault) : String := (Http.Response.faultJson fault).renderPretty ++ "\n"

/-- Does the command write to a log file? -/
def logsToFile (command : Command) : Bool := command == .start true

/-- Can the log be written? -/
def canLog (l : Launch) (command : Command) : Bool :=
  !logsToFile command || l.files.canMake (logDirectory l.home)

/-- Runs a command with its settings. -/
def perform (n : Network) (command : Command) (s : Settings) : Outcome :=
  match command with
  | .config => .printed (s.toJson.renderPretty ++ "\n")
  | .start _ =>
    match Controller.listen Network.sockets n s with
    | .ok _ => .serving
    | .error fault => .failed fault

/-- Runs a command with the settings of a source and an environment. -/
def resume (n : Network) (env : Settings.Environment) (source : Settings.Source)
    (command : Command) : Outcome :=
  match Settings.resolve source env with
  | .error fault => .refused fault
  | .ok s => perform n command s

/-- What is printed for a request for the version. -/
def versionText : String := Monitor.serviceName ++ " " ++ Monitor.version ++ "\n"

/-- Runs the program. -/
def run (l : Launch) (args : List String) : Outcome :=
  match CommandLine.parse args with
  | .error .displayVersion => .printed versionText
  | .error reason => .usage reason
  | .ok line =>
    if !l.canLog line.command then .noLog
    else resume l.network l.env (l.source line.config) line.command

/-! ## Logs -/

/-- How many days rotated logs are kept. -/
def retention (env : Settings.Environment) : Nat :=
  ((Settings.valueOf? env "FLEET_LOG_RETENTION_DAYS").bind fun value =>
    Decimal.uint32? value.toList).getD defaultRetention

/-- The log files after a run that found some; `today` is the one that is written. -/
def logs (l : Launch) (args : List String) (found : List LogFile) (today : LogFile) :
    List LogFile :=
  match CommandLine.parse args with
  | .ok line =>
    if logsToFile line.command && l.canLog line.command then
      (cleanup (logDirectory l.home) (retention l.env) (today :: found)).2
    else found
  | .error _ => found

end Launch

end HostFleet
