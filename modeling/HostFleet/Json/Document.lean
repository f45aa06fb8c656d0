import HostFleet.Json.Token

/-! # JSON documents

A document is the tree of a JSON text before it is decided what is kept of it: a part that nobody
asks for may hold a number without a value, a string that is no text, repeated names, and any depth.

* `Node`: the tree; `Node.ofTokens?` builds it with a stack of open brackets.
* `Node.keep?`: the value of a tree, when all of it has a value and it is not nested too deep.
* `Json.parse?`: the value of a text.
-/

set_option autoImplicit false

namespace HostFleet.Json

/-- A tree of tokens; a number or a string may be without value. -/
inductive Node where
  | null
  | bool (b : Bool)
  | number (value : Option Number)
  | string (value : Option String)
  | array (items : List Node)
  | object (fields : List (Option String × Node))
  deriving Repr, Inhabited

namespace Node

/-! ## Reading -/

/-- An open bracket, with what stands behind it so far, last first. -/
inductive Frame where
  | items (done : List Node)
  /-- The name is that of the field being read. -/
  | fields (done : List (Option String × Node)) (name : Option String)

/-- What may come next. -/
inductive Expect where
  | value
  | firstItem
  | firstName (done : List (Option String × Node))
  | name (done : List (Option String × Node))
  | colon (done : List (Option String × Node)) (name : Option String)
  /-- A comma or the end of what is open. -/
  | more
  /-- Nothing: the tree is complete. -/
  | done (node : Node)

/-- The state of the builder. -/
structure Builder where
  stack : List Frame
  expect : Expect

/-- Puts a complete value into the innermost open bracket. -/
def Builder.put (stack : List Frame) (node : Node) : Builder :=
  match stack with
  | [] => ⟨[], .done node⟩
  | .items done :: rest => ⟨.items (node :: done) :: rest, .more⟩
  | .fields done name :: rest => ⟨.fields ((name, node) :: done) none :: rest, .more⟩

/-- Reads the first token of a value. -/
def Builder.value (stack : List Frame) : Token → Option Builder
  | .null => some (.put stack .null)
  | .bool b => some (.put stack (.bool b))
  | .number value => some (.put stack (.number value))
  | .string value => some (.put stack (.string value))
  | .openArray => some ⟨.items [] :: stack, .firstItem⟩
  | .openObject => some ⟨stack, .firstName []⟩
  | _ => none

/-- Reads a token. -/
def Builder.step (b : Builder) (t : Token) : Option Builder :=
  match b.expect, t with
  | .value, t => Builder.value b.stack t
  | .firstItem, .closeArray =>
    match b.stack with
    | .items _ :: rest => some (.put rest (.array []))
    | _ => none
  | .firstItem, t => Builder.value b.stack t
  | .firstName done, .closeObject => some (.put b.stack (.object done.reverse))
  | .firstName done, .string name => some ⟨b.stack, .colon done name⟩
  | .name done, .string name => some ⟨b.stack, .colon done name⟩
  | .colon done name, .colon => some ⟨.fields done name :: b.stack, .value⟩
  | .more, .comma =>
    match b.stack with
    | .items done :: rest => some ⟨.items done :: rest, .value⟩
    | .fields done _ :: rest => some ⟨rest, .name done⟩
    | [] => none
  | .more, .closeArray =>
    match b.stack with
    | .items done :: rest => some (.put rest (.array done.reverse))
    | _ => none
  | .more, .closeObject =>
    match b.stack with
    | .fields done _ :: rest => some (.put rest (.object done.reverse))
    | _ => none
  | _, _ => none

/-- The tree of a list of tokens, if they form one value. -/
def ofTokens? (ts : List Token) : Option Node :=
  match ts.foldlM Builder.step ⟨[], .value⟩ with
  | some ⟨_, .done node⟩ => some node
  | _ => none

/-- The tree of a text. -/
def parse? (b : Bytes) : Option Node := (tokens? b).bind ofTokens?

/-! ## Keeping -/

/-- The value of a tree with at most `depth` brackets around each other; of a repeated name the last
is kept. -/
def keep? : Nat → Node → Option Json
  | _, null => some .null
  | _, bool b => some (.bool b)
  | _, number value => value.map .number
  | _, string value => value.map .text
  | 0, array _ => none
  | depth + 1, array items => (items.mapM (keep? depth)).map .array
  | 0, object _ => none
  | depth + 1, object fields =>
    (fields.mapM fun (f : Option String × Node) =>
      f.1.bind fun name => (keep? depth f.2).map fun value => (name, value)).map fun kept =>
        .object (sortFields kept)

end Node

/-- How many brackets may stand around each other. -/
def maxDepth : Nat := 127

/-- The value of a JSON text. -/
def parse? (b : Bytes) : Option Json := (Node.parse? b).bind (Node.keep? maxDepth)

end HostFleet.Json
