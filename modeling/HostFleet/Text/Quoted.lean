import HostFleet.Text.Marked

/-! # Quoted text

How a text is shown inside a message: between double quotes, with the quote, the backslash and
the usual controls written by a backslash, and every other character that does not show by its
code point, `\u{7f}`.
-/

set_option autoImplicit false

namespace HostFleet.Text

/-- The code point in braces, in lowercase hexadecimal digits. -/
def codePoint (c : Char) : List Char :=
  ['\\', 'u', '\x7b'] ++ Nat.toDigits 16 c.toNat ++ ['\x7d']

def quoteChar (c : Char) : List Char :=
  match c with
  | '\x00' => ['\\', '0']
  | '\t' => ['\\', 't']
  | '\r' => ['\\', 'r']
  | '\n' => ['\\', 'n']
  | '\\' => ['\\', '\\']
  | '"' => ['\\', '"']
  | c => if isMarked c then codePoint c else [c]

def quoteList (s : List Char) : List Char := '"' :: s.flatMap quoteChar ++ ['"']

/-- The text as it is shown in a message. -/
def quote (s : String) : String := String.ofList (quoteList s.toList)

end HostFleet.Text
