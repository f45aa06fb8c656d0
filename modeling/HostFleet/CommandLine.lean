import HostFleet.Text.Split

/-! # The command line

`fleet-controller [-v] [-q] [--json] [-c FILE] start [--log-file] | config`. The file may also be named
behind the command, where it goes before one named in front.

* `CommandLine.parse`: reads the arguments.
* `Usage`: why arguments are not accepted; a request for help or the version is one of these.
-/

set_option autoImplicit false

namespace HostFleet

inductive Usage where
  | displayHelp
  | displayHelpOnMissingArgumentOrSubcommand
  | displayVersion
  | argumentConflict
  | unknownArgument
  | invalidSubcommand
  | invalidValue
  | missingSubcommand
  | tooManyValues
  deriving DecidableEq, Repr

namespace Usage

def name : Usage → String
  | displayHelp => "DisplayHelp"
  | displayHelpOnMissingArgumentOrSubcommand => "DisplayHelpOnMissingArgumentOrSubcommand"
  | displayVersion => "DisplayVersion"
  | argumentConflict => "ArgumentConflict"
  | unknownArgument => "UnknownArgument"
  | invalidSubcommand => "InvalidSubcommand"
  | invalidValue => "InvalidValue"
  | missingSubcommand => "MissingSubcommand"
  | tooManyValues => "TooManyValues"

/-- The exit code: what was asked for is no mistake. -/
def exitCode : Usage → Nat
  | displayHelp | displayVersion => 0
  | _ => 2

end Usage

inductive Command where
  /-- Run the controller; to a log file? -/
  | start (logFile : Bool)
  /-- Print the settings. -/
  | config
  deriving DecidableEq, Repr

structure CommandLine where
  verbose : Nat
  quiet : Bool
  json : Bool
  config : Option String
  command : Command
  deriving DecidableEq, Repr

namespace CommandLine

/-! ## Options -/

inductive Flag where
  | verbose
  | quiet
  | json
  | logFile
  | config
  | help
  | version
  deriving DecidableEq, Repr

/-- Where an option may stand. -/
inductive Level where
  | root
  | start
  | config
  deriving DecidableEq, Repr

def long? (level : Level) (name : List Char) : Option Flag :=
  match level, String.ofList name with
  | _, "help" => some .help
  | _, "config" => some .config
  | .root, "verbose" => some .verbose
  | .root, "quiet" => some .quiet
  | .root, "json" => some .json
  | .root, "version" => some .version
  | .start, "log-file" => some .logFile
  | _, _ => none

def short? (level : Level) (c : Char) : Option Flag :=
  match level, c with
  | _, 'h' => some .help
  | _, 'c' => some .config
  | .root, 'v' => some .verbose
  | .root, 'q' => some .quiet
  | .root, 'V' => some .version
  | _, _ => none

/-! ## Reading -/

/-- What was read at one level. -/
structure Parsed where
  verbose : Nat
  flags : List Flag
  config : Option String
  /-- An option whose value is not taken over yet, with the value if it came. -/
  pending : Option (Option String)
  deriving DecidableEq, Repr

namespace Parsed

def empty : Parsed := ⟨0, [], none, none⟩

/-- Was any option given? -/
def isGiven (p : Parsed) : Bool := 0 < p.verbose || !p.flags.isEmpty || p.config.isSome

/-- Takes over a value; there may be one only, and it may not be empty. -/
def takeConfig (p : Parsed) (value : String) : Except Usage Parsed :=
  if p.config.isSome then .error .argumentConflict
  else if value.isEmpty then .error .invalidValue
  else .ok { p with config := some value }

/-- Takes over what is pending. -/
def settle (p : Parsed) : Except Usage Parsed :=
  match p.pending with
  | none => .ok p
  | some none => .error .invalidValue
  | some (some value) => takeConfig { p with pending := none } value

/-- Takes over an option without value. -/
def flag (p : Parsed) (o : Flag) : Except Usage Parsed := do
  let p ← p.settle
  match o with
  | .help => .error .displayHelp
  | .version => .error .displayVersion
  | .verbose => .ok { p with verbose := min 255 (p.verbose + 1) }
  | o => if p.flags.contains o then .error .argumentConflict else .ok { p with flags := o :: p.flags }

/-- Begins the option with a value, which may be attached. -/
def option (p : Parsed) (attached : Option String) : Except Usage Parsed := do
  let p ← p.settle
  match attached with
  | some value => p.takeConfig value
  | none => .ok { p with pending := some none }

end Parsed

/-- Reads short options that stand together. -/
def cluster (level : Level) (p : Parsed) : List Char → Except Usage Parsed
  | [] => .ok p
  | c :: rest =>
    match short? level c with
    | none => .error .unknownArgument
    | some .config =>
      match rest with
      | [] => p.option none
      | '=' :: value => p.option (some (String.ofList value))
      | value => p.option (some (String.ofList value))
    | some o => (p.flag o).bind fun p => cluster level p rest

/-- Reads a long option, behind its two dashes. -/
def longOption (level : Level) (p : Parsed) (s : List Char) : Except Usage Parsed :=
  let (name, value) := match Text.cutFirst '=' s with
    | some (name, value) => (name, some (String.ofList value))
    | none => (s, none)
  match long? level name, value with
  | none, _ => .error .unknownArgument
  | some .config, value => p.option value
  | some _, some _ => .error .tooManyValues
  | some o, none => p.flag o

def subcommands : List (String × Level) := [("start", .start), ("config", .config)]

/-- Asks for help about commands. -/
def helpFor : List String → Usage
  | [] => .displayHelp
  | [name] =>
    if name == "help" || (subcommands.lookup name).isSome then .displayHelp else .invalidSubcommand
  | _ => .invalidSubcommand

/-- An argument that is no option. -/
def stray (level : Level) (trailing : Bool) (arg : String) : Usage :=
  match level with
  | .root =>
    if trailing && (arg == "help" || (subcommands.lookup arg).isSome) then .unknownArgument
    else .invalidSubcommand
  | _ => .unknownArgument

/-- What the arguments of a level come to: the rest belongs to a command, if one was named. -/
structure Reading where
  parsed : Parsed
  command : Option (Level × List String)

/-- Reads the arguments of a level. -/
def read (level : Level) (p : Parsed) (trailing : Bool) : List String → Except Usage Reading
  | [] => .ok ⟨p, none⟩
  | arg :: args =>
    if trailing then .error (stray level true arg)
    else
      let waiting := p.pending == some none
      match (if level = .root && !waiting then subcommands.lookup arg else none) with
      | some command => .ok ⟨p, some (command, args)⟩
      | none =>
        if level = .root && !waiting && arg == "help" then .error (helpFor args)
        else match arg.toList with
          | ['-', '-'] => read level p true args
          | '-' :: '-' :: s => (longOption level p s).bind fun p => read level p false args
          | '-' :: c :: s => (cluster level p (c :: s)).bind fun p => read level p false args
          | _ =>
            if waiting then read level { p with pending := some (some arg) } false args
            else .error (stray level false arg)

/-- Reads the arguments of a command. -/
def readCommand (level : Level) (args : List String) : Except Usage Parsed := do
  let r ← read level .empty false args
  r.parsed.settle

/-- The command of a level. -/
def commandOf (level : Level) (p : Parsed) : Command :=
  match level with
  | .start => .start (p.flags.contains .logFile)
  | _ => .config

/-- Reads all arguments. -/
def parse (args : List String) : Except Usage CommandLine := do
  let r ← read .root .empty false args
  match r.command with
  | some (level, rest) =>
    let sub ← readCommand level rest
    let p ← r.parsed.settle
    return {
      verbose := p.verbose
      quiet := p.flags.contains .quiet
      json := p.flags.contains .json
      config := sub.config <|> p.config
      command := commandOf level sub }
  | none =>
    let p ← r.parsed.settle
    if p.isGiven then .error .missingSubcommand
    else .error .displayHelpOnMissingArgumentOrSubcommand

end CommandLine

end HostFleet
