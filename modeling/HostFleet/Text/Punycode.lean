import HostFleet.Text.Split

/-! # Punycode

Text written in ASCII letters, digits and hyphens: its ASCII characters come first, and behind the last
hyphen stand numbers that say which other characters to insert and where. The numbers have digits to base
36, the lowest first, and a digit below a threshold ends a number; the thresholds follow a bias that is
fitted to the numbers so far.

* `encode`: the written form of a text.
* `decode?`: the text of a written form.
-/

set_option autoImplicit false

namespace HostFleet.Text.Punycode

/-! ## Digits -/

/-- The letters are the digits below 26, then come `0` to `9`. -/
def digit (d : Nat) : Char := if d < 26 then Char.ofNat (0x61 + d) else Char.ofNat (0x16 + d)

def digit? (c : Char) : Option Nat :=
  if c.isLower then some (c.toNat - 0x61)
  else if c.isUpper then some (c.toNat - 0x41)
  else if c.isDigit then some (c.toNat - 0x16)
  else none

/-- A digit of weight `k` that is smaller ends a number. -/
def threshold (bias k : Nat) : Nat := max 1 (min 26 (k - bias))

theorem threshold_pos (bias k : Nat) : 1 ≤ threshold bias k := Nat.le_max_left _ _

/-! ## Numbers -/

/-- The digits of a number, from that of weight `k` on. -/
def writeNumber (bias k n : Nat) : List Char :=
  let t := threshold bias k
  if n < t then [digit n]
  else digit (t + (n - t) % (36 - t)) :: writeNumber bias (k + 36) ((n - t) / (36 - t))
termination_by n
decreasing_by
  have := threshold_pos bias k
  exact Nat.lt_of_le_of_lt (Nat.div_le_self _ _) (by omega)

/-- Adds the number of the digits, each `w` times, to `i`. -/
def readNumber (bias : Nat) : List Char → Nat → Nat → Nat → Option (Nat × List Char)
  | [], _, _, _ => none
  | c :: rest, k, w, i =>
    match digit? c with
    | none => none
    | some d =>
      let t := threshold bias k
      if d < t then some (i + d * w, rest)
      else readNumber bias rest (k + 36) (w * (36 - t)) (i + d * w)

theorem length_lt_of_readNumber {bias : Nat} {s rest : List Char} {k w i j : Nat}
    (h : readNumber bias s k w i = some (j, rest)) : rest.length < s.length := by
  induction s generalizing k w i with
  | nil => simp [readNumber] at h
  | cons c s ih =>
    simp only [readNumber] at h
    split at h
    · simp at h
    · split at h
      · simp only [Option.some.injEq, Prod.mk.injEq] at h
        rw [← h.2]
        simp
      · have := ih h
        simp only [List.length_cons]
        omega

/-! ## The bias -/

/-- Divides by 35 until the number is small, and counts digits. -/
def settle (n k : Nat) : Nat :=
  if 455 < n then settle (n / 35) (k + 36) else k + 36 * n / (n + 38)
termination_by n
decreasing_by exact Nat.div_lt_self (by omega) (by decide)

/-- The bias behind a number, when `count` characters are there. -/
def bias (number count : Nat) (isFirst : Bool) : Nat :=
  let n := if isFirst then number / 700 else number / 2
  settle (n + n / count) 0

/-! ## Writing -/

def isAscii (c : Char) : Bool := c.toNat < 0x80

/-- The writing of a text under way. -/
structure Writing where
  /-- What is written so far. -/
  done : List Char
  /-- How many characters are accounted for, and how many were at the start. -/
  count : Nat
  start : Nat
  /-- The number under way. -/
  number : Nat
  bias : Nat

/-- Passes a place of the text while the characters with code point `n` are written. -/
def Writing.pass (n : Nat) (w : Writing) (c : Char) : Writing :=
  if c.toNat < n then { w with number := w.number + 1 }
  else if c.toNat = n then
    { w with
      done := w.done ++ writeNumber w.bias 36 w.number
      count := w.count + 1
      number := 0
      bias := Punycode.bias w.number (w.count + 1) (w.count == w.start) }
  else w

/-- Writes the characters with the given code points, which increase from `n` on. -/
def Writing.passAll (s : List Char) (w : Writing) (n : Nat) : List Nat → Writing
  | [] => w
  | m :: more =>
    let w := s.foldl (Writing.pass m) { w with number := w.number + (m - n) * (w.count + 1) }
    passAll s { w with number := w.number + 1 } (m + 1) more

/-- The written form of a text. -/
def encode (s : List Char) : List Char :=
  let ascii := s.filter isAscii
  let others := ((s.filter fun c => !isAscii c).map Char.toNat).eraseDups.mergeSort
  let front := if ascii.isEmpty then [] else ascii ++ ['-']
  (Writing.passAll s ⟨front, ascii.length, ascii.length, 0, 72⟩ 0x80 others).done

/-! ## Reading -/

/-- Inserts a character for every number: `n` is the code point so far, `i` the place. -/
def insertAll (bias n i : Nat) (done s : List Char) : Option (List Char) :=
  match s with
  | [] => some done
  | c :: s =>
    match _h : readNumber bias (c :: s) 36 1 i with
    | none => none
    | some (j, rest) =>
      let count := done.length + 1
      let n := n + j / count
      if n.isValidChar then
        insertAll (Punycode.bias (j - i) count (i == 0)) n (j % count + 1)
          (done.take (j % count) ++ Char.ofNat n :: done.drop (j % count)) rest
      else none
termination_by s.length
decreasing_by
  have := length_lt_of_readNumber _h
  simpa using this

/-- The text of a written form. -/
def decode? (s : List Char) : Option (List Char) :=
  match cutLast '-' s with
  | some (ascii, numbers) => if ascii.all isAscii then insertAll 72 0x80 0 ascii numbers else none
  | none => insertAll 72 0x80 0 [] s

end HostFleet.Text.Punycode
