import HostFleet.Files
import HostFleet.Moment

/-! # Logging

What is logged and where, and how long log files are kept.

* `LogFormat.forMode`, `LogFormat.forArguments`: the shape of the log.
* `LogFile.isExpired`: which files a cleanup removes; `cleanup` removes them.
* `logFile`, `configFile`: where a user's log and configuration are.
-/

set_option autoImplicit false

namespace HostFleet

inductive LogLevel where
  | error
  | info
  | debug
  deriving DecidableEq, Repr

def LogLevel.name : LogLevel → String
  | error => "ERROR"
  | info => "INFO"
  | debug => "DEBUG"

/-- What runs. -/
inductive LogMode where
  /-- A controller that stays. -/
  | controller
  /-- A command that ends. -/
  | command
  | test
  deriving DecidableEq, Repr

structure LogFormat where
  level : LogLevel
  /-- May colours be used, where there is a terminal? -/
  color : Bool
  showTimestamps : Bool
  showTarget : Bool
  json : Bool
  spans : Bool
  /-- The file that is written instead of the standard output. -/
  file : Option String
  deriving DecidableEq, Repr

namespace LogFormat

def forMode : LogMode → LogFormat
  | .controller => ⟨.info, false, true, true, false, false, none⟩
  | .command => ⟨.info, true, false, false, false, false, none⟩
  | .test => ⟨.debug, false, true, true, false, true, none⟩

/-- The format that flags ask for; being verbose goes before being quiet. -/
def forArguments (quiet verbose json : Bool) : LogFormat where
  level := if verbose then .debug else if quiet then .error else .info
  color := !quiet && !json
  showTimestamps := true
  showTarget := verbose
  json := json
  spans := verbose
  file := none

end LogFormat

/-! ## Places -/

/-- The directory of this program in a user's home. -/
def userDirectory (home : String) : String := Files.join home ".fleet-controller"

def configFile (home : String) : String := Files.join (userDirectory home) "config.toml"

def logDirectory (home : String) : String := Files.join (userDirectory home) "logs"

def logFileName : String := "controller.log"

def logFile (home : String) : String := Files.join (logDirectory home) logFileName

/-! ## Retention -/

/-- What stands in a directory of logs. -/
structure LogFile where
  name : String
  /-- How long ago it was changed. -/
  age : Age
  /-- Is it something else than a file? -/
  isDirectory : Bool
  deriving DecidableEq, Repr

/-- What the path of a rotated log holds. -/
def rotatedMark : List Char := ".log.".toList

/-- Is it a rotated log that is older than the given days? -/
def LogFile.isExpired (directory : String) (days : Nat) (f : LogFile) : Bool :=
  !f.isDirectory && Text.contains rotatedMark (Files.join directory f.name).toList &&
    f.age.exceeds (Span.ofDays days)

/-- The number of files that a cleanup removes, and what is left. -/
def cleanup (directory : String) (days : Nat) (files : List LogFile) : Nat × List LogFile :=
  ((files.filter (·.isExpired directory days)).length,
    files.filter fun f => !f.isExpired directory days)

/-- How many days logs are kept when nothing else is said. -/
def defaultRetention : Nat := 7

end HostFleet
