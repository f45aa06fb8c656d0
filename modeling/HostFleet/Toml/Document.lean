import HostFleet.Toml.Scalar

/-! # TOML documents

A document is a list of tables that fill one tree.

* `Item`, `Table`: the tree; a table remembers how it came to be, which decides what may be added to it.
* `Table.define`: a key with a value, possibly dotted; `Table.openTable`, `Table.openElement`: headers.
* `parse?`: the tree of a text.
-/

set_option autoImplicit false

namespace HostFleet.Toml

/-! ## The tree -/

inductive Item where
  /-- A scalar. -/
  | scalar (s : Scalar)
  /-- An array or a table in braces, which is complete as it stands. -/
  | closed
  /-- A table; was it only named on the way to another, and by a dotted key? -/
  | table (implicit dotted : Bool) (fields : List (String × Item))
  /-- An array of tables, the last first. -/
  | tables (elements : List (List (String × Item)))
  deriving Inhabited

abbrev Fields := List (String × Item)

/-- A table that is open for additions. -/
structure Table where
  implicit : Bool
  dotted : Bool
  fields : Fields

def Table.empty : Table := ⟨false, false, []⟩

def Table.toItem (t : Table) : Item := .table t.implicit t.dotted t.fields

namespace Table

/-- Sets a field. -/
def put (t : Table) (name : String) (item : Item) : Table :=
  { t with fields := t.fields.filter (fun f => f.1 != name) ++ [(name, item)] }

/-- Changes the table at the end of a path; tables that are missing on the way are made. -/
def descend (dotted : Bool) (f : Table → Option Table) : List String → Table → Option Table
  | [], t => f t
  | name :: path, t =>
    match t.fields.lookup name with
    | none => (descend dotted f path ⟨true, dotted, []⟩).map fun u => t.put name u.toItem
    | some (.table implicit d fields) =>
      if dotted && !implicit then none
      else (descend dotted f path ⟨implicit, d, fields⟩).map fun u => t.put name u.toItem
    | some (.tables (element :: more)) =>
      (descend dotted f path ⟨false, false, element⟩).map fun u =>
        t.put name (.tables (u.fields :: more))
    | some _ => none

/-- Adds a value under a dotted key. -/
def define (path : List String) (name : String) (item : Item) (t : Table) : Option Table :=
  descend true (fun u =>
    if u.dotted == path.isEmpty then none
    else if (u.fields.lookup name).isSome then none
    else some (u.put name item)) path t

/-- Opens the table of a header, which may only have been named before. -/
def openTable (path : List String) (name : String) (t : Table) : Option Table :=
  descend false (fun u =>
    match u.fields.lookup name with
    | none => some (u.put name (.table false false []))
    | some (.table true false fields) => some (u.put name (.table false false fields))
    | some _ => none) path t

/-- Opens one more element of an array of tables. -/
def openElement (path : List String) (name : String) (t : Table) : Option Table :=
  descend false (fun u =>
    match u.fields.lookup name with
    | none => some (u.put name (.tables [[]]))
    | some (.tables elements) => some (u.put name (.tables ([] :: elements)))
    | some _ => none) path t

end Table

/-! ## Keys -/

def isBare (c : Char) : Bool := c.isAlphanum || c == '_' || c == '-'

/-- A key without dots. -/
def simpleKey (s : List Char) : Option (String × List Char) :=
  match s with
  | '"' :: rest => basic (rest.length + 1) [] rest
  | '\'' :: rest => literal rest
  | s =>
    let bare := s.takeWhile isBare
    if bare.isEmpty then none else some (String.ofList bare, s.drop bare.length)

/-- How many parts a key may have and how deep values may be nested. -/
def depthLimit : Nat := 80

/-- The parts of a key, with white space around the dots. -/
def keyParts : Nat → List Char → Option (List String × List Char)
  | 0, _ => none
  | fuel + 1, s => do
    let (name, s) ← simpleKey (skipWhite s)
    match skipWhite s with
    | '.' :: rest =>
      let (names, rest) ← keyParts fuel rest
      return (name :: names, rest)
    | rest => return ([name], rest)

/-- A key: the path to its table, and its last part. -/
def key (s : List Char) : Option ((List String × String) × List Char) := do
  let (names, s) ← keyParts (depthLimit - 1) s
  return ((names.dropLast, ← names.getLast?), s)

/-! ## Values -/

/-- The text behind a comment. -/
def skipComment (s : List Char) : Option (List Char) :=
  match s with
  | '#' :: rest =>
    let isEnd := fun c : Char => c == '\n' || c == '\r'
    if (rest.takeWhile fun c => !isEnd c).all isPlain then some (rest.dropWhile fun c => !isEnd c)
    else none
  | s => some s

/-- The text behind white space, line ends and comments. -/
def skipFiller : Nat → List Char → Option (List Char)
  | 0, s => some s
  | fuel + 1, s =>
    match skipWhite s with
    | '#' :: rest => (skipComment ('#' :: rest)).bind (skipFiller fuel)
    | s =>
      match lineEnd s with
      | some rest => skipFiller fuel rest
      | none => some s

def filler (s : List Char) : Option (List Char) := skipFiller (s.length + 1) s

mutual

/-- A value at the start of the text, nested at most `depth` deep. -/
def value (fuel depth : Nat) (s : List Char) : Option (Item × List Char) :=
  match fuel, depth with
  | 0, _ => none
  | fuel + 1, depth =>
    match s with
    | '[' :: rest =>
      if depth ≤ 1 then none
      else (elements fuel (depth - 1) rest).map fun rest => (.closed, rest)
    | '{' :: rest =>
      if depth ≤ 1 then none
      else match skipWhite rest with
        | '}' :: rest => some (.closed, rest)
        | rest => (pairs fuel (depth - 1) .empty rest).map fun rest => (.closed, rest)
    | s => (scalar? s).map fun (v, rest) => (.scalar v, rest)

/-- The elements of an array and its end. -/
def elements (fuel depth : Nat) (s : List Char) : Option (List Char) :=
  match fuel with
  | 0 => none
  | fuel + 1 => do
    match ← filler s with
    | ']' :: rest => some rest
    | s =>
      let (_, s) ← value fuel depth s
      match ← filler s with
      | ',' :: rest => elements fuel depth rest
      | ']' :: rest => some rest
      | _ => none

/-- The pairs of a table in braces and its end. -/
def pairs (fuel depth : Nat) (t : Table) (s : List Char) : Option (List Char) :=
  match fuel with
  | 0 => none
  | fuel + 1 => do
    let ((path, name), s) ← key s
    let s ← expect '=' (skipWhite s)
    let (item, s) ← value fuel depth (skipWhite s)
    let t ← t.define path name item
    match skipWhite s with
    | ',' :: rest => pairs fuel depth t rest
    | '}' :: rest => some rest
    | _ => none

end

/-! ## Lines -/

/-- The rest of a line: white space, perhaps a comment, and its end. -/
def endLine (s : List Char) : Option (List Char) := do
  match ← skipComment (skipWhite s) with
  | [] => some []
  | s => lineEnd s

/-- The document so far, and where its next pairs belong. -/
structure State where
  root : Table
  current : List String

/-- A header behind its first bracket. -/
def header (st : State) (s : List Char) : Option (State × List Char) := do
  let (isElement, s) := match s with
    | '[' :: rest => (true, rest)
    | s => (false, s)
  let ((path, name), s) ← key s
  let s ← expect ']' (skipWhite s)
  let s ← if isElement then expect ']' s else some s
  let root ← if isElement then st.root.openElement path name else st.root.openTable path name
  return (⟨root, path ++ [name]⟩, ← endLine s)

/-- A line `key = value`. -/
def pair (st : State) (s : List Char) : Option (State × List Char) := do
  let ((path, name), s) ← key s
  let s ← expect '=' (skipWhite s)
  let (item, s) ← value (s.length + 1) depthLimit (skipWhite s)
  let root ← st.root.descend false (Table.define path name item) st.current
  return (⟨root, st.current⟩, ← endLine s)

/-- The lines of a text. -/
def lines : Nat → State → List Char → Option State
  | 0, _, _ => none
  | fuel + 1, st, s =>
    match skipWhite s with
    | [] => some st
    | '#' :: rest => (endLine ('#' :: rest)).bind (lines fuel st)
    | '[' :: rest => (header st rest).bind fun (st, rest) => lines fuel st rest
    | s =>
      match lineEnd s with
      | some rest => lines fuel st rest
      | none => (pair st s).bind fun (st, rest) => lines fuel st rest

/-- The fields of a text, which may begin with a byte order mark. -/
def parse? (text : String) : Option Fields :=
  let s := match text.toList with
    | '\uFEFF' :: rest => rest
    | s => s
  (lines (s.length + 1) ⟨.empty, []⟩ s).map (·.root.fields)

end HostFleet.Toml
