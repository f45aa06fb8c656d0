/-! # White space

The characters with the Unicode property White_Space, and trimming by them.
-/

set_option autoImplicit false

namespace HostFleet.Text

/-- Has the character the property White_Space? -/
def isBlank (c : Char) : Bool :=
  let n := c.toNat
  (0x9 ≤ n && n ≤ 0xD) || n == 0x20 || n == 0x85 || n == 0xA0 || n == 0x1680 ||
    (0x2000 ≤ n && n ≤ 0x200A) || n == 0x2028 || n == 0x2029 || n == 0x202F || n == 0x205F ||
    n == 0x3000

def trimStartList (s : List Char) : List Char := s.dropWhile isBlank

def trimEndList (s : List Char) : List Char := (s.reverse.dropWhile isBlank).reverse

def trimList (s : List Char) : List Char := trimEndList (trimStartList s)

/-- The text without leading and trailing white space. -/
def trim (s : String) : String := String.ofList (trimList s.toList)

end HostFleet.Text
