import HostFleet.Http.Head

/-! # Chunked bodies

A body in chunks: each has its size in hexadecimal digits in front, the last has size zero, and header
lines may follow it. Here every line ends in a carriage return and a line feed.

* `Chunked.read`: the bytes of the chunks, and what stands behind them.
* `Chunked.write`: a body as one chunk and the last.
* `length_rest_lt`: the line in front of a chunk is read off, so that reading chunks comes to an end.
-/

set_option autoImplicit false

namespace HostFleet.Http

/-- A body that was read, with what stands behind it if its end was found. -/
structure Chunked where
  body : Bytes
  /-- How many chunks have come. -/
  count : Nat
  /-- Do header lines follow the chunks? -/
  trailed : Bool
  rest : Option Bytes
  deriving DecidableEq, Repr

namespace Chunked

/-- This many bytes of extensions or of trailing lines are too many. -/
def limit : Nat := 0x4000

/-! ## Sizes -/

def digit? (b : UInt8) : Option Nat := Bytes.digitOfHex? (Char.ofNat b.toNat)

/-- The number of the digits, if it can be counted. -/
def number? (digits : Bytes) : Option Nat :=
  (digits.foldlM (fun n b => (digit? b).map fun d => 16 * n + d) 0).filter (· ≤ Decimal.maxNat64)

/-- The bytes behind the end of a line that is there. -/
def lineEnd? : Bytes → Option Bytes
  | 0x0D :: 0x0A :: rest => some rest
  | _ => none

theorem lineEnd?_eq_some_iff {bytes rest : Bytes} :
    lineEnd? bytes = some rest ↔ bytes = 0x0D :: 0x0A :: rest := by
  unfold lineEnd?
  split <;> simp_all

/-- The number of bytes in the extensions of a chunk, and what stands behind their line. -/
def extensions? : Bytes → Option (Nat × Bytes)
  | 0x3B :: more =>
    let extension := more.takeWhile fun b => b != 0x0D && b != 0x0A
    (lineEnd? (more.drop extension.length)).map fun rest => (extension.length, rest)
  | bytes => (lineEnd? bytes).map fun rest => (0, rest)

theorem length_lt_of_extensions? {bytes rest : Bytes} {n : Nat}
    (h : extensions? bytes = some (n, rest)) : rest.length < bytes.length := by
  unfold extensions? at h
  split at h
  · simp only [Option.map_eq_some_iff, Prod.mk.injEq] at h
    obtain ⟨_, h, -, rfl⟩ := h
    have := congrArg List.length (lineEnd?_eq_some_iff.1 h)
    simp only [List.length_drop, List.length_cons] at this ⊢
    omega
  · simp only [Option.map_eq_some_iff, Prod.mk.injEq] at h
    obtain ⟨_, h, -, rfl⟩ := h
    rw [lineEnd?_eq_some_iff.1 h]
    simp only [List.length_cons]
    omega

/-- What stands in front of a chunk. -/
structure Size where
  size : Nat
  /-- How many bytes its extensions have. -/
  extra : Nat
  rest : Bytes

/-- Reads the line in front of a chunk: digits, blanks, and extensions behind a semicolon. -/
def size? (bytes : Bytes) : Option Size :=
  let digits := bytes.takeWhile fun b => (digit? b).isSome
  let behind := (bytes.drop digits.length).dropWhile Head.isSpace
  match number? digits, extensions? behind with
  | some size, some (extra, rest) => if digits.isEmpty then none else some ⟨size, extra, rest⟩
  | _, _ => none

theorem length_rest_lt {bytes : Bytes} {s : Size} (h : size? bytes = some s) :
    s.rest.length < bytes.length := by
  have hb := (List.dropWhile_suffix Head.isSpace
    (l := bytes.drop (bytes.takeWhile fun b => (digit? b).isSome).length)).length_le
  simp only [List.length_drop] at hb
  simp only [size?] at h
  split at h
  · next heq =>
    have := length_lt_of_extensions? heq
    split at h
    · simp at h
    · injection h with h
      subst h
      simp only
      omega
  · simp at h

/-! ## Trailing lines -/

/-- The trailing lines with the empty one, and the bytes behind. -/
def trailer? : Bytes → Option (Bytes × Bytes)
  | 0x0D :: 0x0A :: rest => some ([0x0D, 0x0A], rest)
  | bytes => line? bytes
where
  /-- Reads to the end of the line, and on. -/
  line? : Bytes → Option (Bytes × Bytes)
    | 0x0D :: 0x0A :: 0x0D :: 0x0A :: rest => some ([0x0D, 0x0A, 0x0D, 0x0A], rest)
    | 0x0D :: 0x0A :: 0x0D :: _ => none
    | 0x0D :: 0x0A :: rest => (line? rest).map fun (lines, rest) => (0x0D :: 0x0A :: lines, rest)
    | 0x0D :: _ => none
    | b :: rest => (line? rest).map fun (lines, rest) => (b :: lines, rest)
    | [] => none

/-- How many lines end in a carriage return and a line feed. -/
def countLines : Bytes → Nat
  | 0x0D :: 0x0A :: rest => countLines rest + 1
  | _ :: rest => countLines rest
  | [] => 0

/-- Are the lines header lines, no more than are counted? -/
def areFields (lines : Bytes) : Bool :=
  let count := countLines lines - 1
  count < Head.maxFields && lines.length < limit &&
    match Head.fields count lines with
    | .whole _ _ => true
    | _ => false

/-- What stands behind the last chunk. -/
def ending (bytes : Bytes) : Chunked :=
  match trailer? bytes with
  | some (lines, rest) => ⟨[], 0, lines != [0x0D, 0x0A], if areFields lines then some rest else none⟩
  | none => ⟨[], 0, false, none⟩

/-! ## Bodies -/

/-- Reads chunks behind `extra` bytes of extensions. -/
def readFrom (extra : Nat) (bytes : Bytes) : Chunked :=
  match _h : size? bytes with
  | none => ⟨[], 0, false, none⟩
  | some s =>
    if limit ≤ extra + s.extra then ⟨[], 0, false, none⟩
    else if s.size = 0 then ending s.rest
    else
      let chunk := s.rest.take s.size
      match _hr : lineEnd? (s.rest.drop s.size) with
      | some rest =>
        let more := readFrom (extra + s.extra) rest
        { more with body := chunk ++ more.body, count := more.count + 1 }
      | none => ⟨chunk, 1, false, none⟩
termination_by bytes.length
decreasing_by
  have h1 := length_rest_lt _h
  have h2 := congrArg List.length (lineEnd?_eq_some_iff.1 _hr)
  simp only [List.length_drop, List.length_cons] at h2
  omega

/-- Reads a body. -/
def read (bytes : Bytes) : Chunked := readFrom 0 bytes

/-- Writes a body. -/
def write (body : Bytes) : Bytes :=
  let lineEnd : Bytes := [0x0D, 0x0A]
  let chunk := if body.isEmpty then []
    else Bytes.ofText (String.ofList (Nat.toDigits 16 body.length)) ++ lineEnd ++ body ++ lineEnd
  chunk ++ Bytes.ofText "0" ++ lineEnd ++ lineEnd

end Chunked

end HostFleet.Http
