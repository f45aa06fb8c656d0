import HostFleet.Domain.Folding
import HostFleet.Domain.Refused
import HostFleet.Text.Marked
import HostFleet.Text.Punycode

/-! # Domain names

A domain name is a list of labels between dots. It is looked up in ASCII: letters in lowercase, characters
with a plain form as that form, and a label with any other character in its coded form, behind `xn--`.

* `Domain.ascii?`: the name as it is looked up, if the text is a name.
-/

set_option autoImplicit false

namespace HostFleet.Domain

open Text.Punycode (isAscii)

/-- What a character of a name stands for. -/
def plain? (c : Char) : Option (List Char) :=
  if isAscii c then some [c.toLower]
  else match fold? c with
    | some plain => some plain
    | none => if isRefused c then none else some [c]

/-- The mark of a label in its coded form. -/
def codeMark : List Char := "xn--".toList

/-- May the characters be what a coded label stands for? Something in it is beyond ASCII, nothing in it
has another form, and it does not begin with a mark on a character before it. -/
def isDecoded (s : List Char) : Bool :=
  !s.all isAscii && s.all (fun c => plain? c == some [c]) && !(s.head?.map Text.isMarked).getD false

/-- The longest code that is read, and the longest label that is written in code. -/
def maxCode : Nat := 2000

def maxLabel : Nat := 1000

/-- Is the code that of a label? -/
def isCode (code : List Char) : Bool :=
  code.all isAscii && code.length ≤ maxCode &&
    ((Text.Punycode.decode? code).map isDecoded).getD false

/-- A label as it is looked up. -/
def label? (s : List Char) : Option (List Char) :=
  match Text.dropHead? codeMark s with
  | some code => if isCode code then some s else none
  | none =>
    if s.all isAscii then some s
    else if isDecoded s && s.length ≤ maxLabel then some (codeMark ++ Text.Punycode.encode s)
    else none

/-- The name as it is looked up, if the text is a name. -/
def ascii? (s : List Char) : Option (List Char) := do
  let plain ← s.mapM plain?
  let labels ← (Text.fields '.' plain.flatten).mapM label?
  return List.intercalate ['.'] labels

end HostFleet.Domain
