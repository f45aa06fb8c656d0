import HostFleet.Bytes
import HostFleet.Text.Split

/-! # Files

The files that a program starts with, seen from its working directory.

* `Files.find`: what a path leads to.
* `Files.read`: the text of a file, or why it cannot be read.
* `Files.join`: a path inside a directory.
-/

set_option autoImplicit false

namespace HostFleet

/-- Files by the names on their way, and directories that need no file to be there. -/
structure Files where
  files : List (List String × Bytes)
  directories : List (List String)
  deriving Repr

namespace Files

/-- What stands at a path. -/
inductive Found where
  | file (content : Bytes)
  | directory
  | missing
  /-- Something on the way is a file. -/
  | notDirectory
  /-- The path, or a name that is looked up on the way, is too long. -/
  | tooLong
  /-- No file can have such a path. -/
  | unnamable
  deriving DecidableEq, Repr

/-- The longest path and the longest name, in bytes. -/
def maxPath : Nat := 4095

def maxName : Nat := 255

/-- The names of a path between its slashes. -/
def names (path : String) : List String := (Text.fields '/' path.toList).map String.ofList

/-- The names of a path that stays below its start. -/
def plainNames (path : String) : List String :=
  (names path).filter fun n => !(n.isEmpty || n == ".")

/-- What stands at a way without detours. -/
def at? (fs : Files) (way : List String) : Found :=
  match fs.files.lookup way with
  | some content => .file content
  | none =>
    let leadsOn (w : List String) : Bool := way.isPrefixOf w
    if fs.directories.any leadsOn || fs.files.any (fun f => leadsOn f.1) || way.isEmpty then
      .directory
    else .missing

/-- Follows names from a directory; `outer` counts the steps above the working directory. -/
def follow (fs : Files) (outer : Nat) (way : List String) : List String → Found
  | [] => if outer = 0 then fs.at? way else .directory
  | name :: more =>
    match (if outer = 0 then fs.at? way else .directory) with
    | .file _ => .notDirectory
    | .directory =>
      if name.isEmpty || name == "." then follow fs outer way more
      else if maxName < name.utf8ByteSize then .tooLong
      else if name == ".." then
        if way.isEmpty then follow fs (outer + 1) [] more else follow fs outer way.dropLast more
      else if outer = 0 then follow fs 0 (way ++ [name]) more
      else .missing
    | found => found

/-- What a path leads to. Nothing is known above the working directory. -/
def find (fs : Files) (path : String) : Found :=
  if path.contains '\x00' then .unnamable
  else if maxPath < path.utf8ByteSize then .tooLong
  else if path.isEmpty then .missing
  else match path.toList with
    | '/' :: _ =>
      match plainNames path with
      | [] => .directory
      | name :: _ => if maxName < name.utf8ByteSize then .tooLong else .missing
    | _ => fs.follow 0 [] (names path)

/-- Is there anything at the path? -/
def isThere (fs : Files) (path : String) : Bool :=
  match fs.find path with
  | .file _ | .directory => true
  | _ => false

/-- The text of a file. -/
def read (fs : Files) (path : String) : Except String String :=
  match fs.find path with
  | .file content =>
    match Bytes.text? content with
    | some text => .ok text
    | none => .error "stream did not contain valid UTF-8"
  | .directory => .error "Is a directory (os error 21)"
  | .missing => .error "No such file or directory (os error 2)"
  | .notDirectory => .error "Not a directory (os error 20)"
  | .tooLong => .error "File name too long (os error 36)"
  | .unnamable => .error "file name contained an unexpected NUL byte"

/-- A path inside a directory. -/
def join (directory path : String) : String :=
  if directory.isEmpty || directory.endsWith "/" then directory ++ path
  else directory ++ "/" ++ path

/-- Can the directory be made, with all on its way? -/
def canMake (fs : Files) (directory : String) : Bool :=
  let way := plainNames directory
  let isFree (n : Nat) : Bool := match fs.at? (way.take n) with
    | .file _ => false
    | _ => true
  directory.utf8ByteSize ≤ maxPath && way.all (·.utf8ByteSize ≤ maxName) &&
    (List.range (way.length + 1)).all isFree

end Files

end HostFleet
