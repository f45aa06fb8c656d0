/-! # Byte strings

Everything that comes over the wire is a list of bytes. This module ties bytes to text.

* `Bytes.ofText`: the UTF-8 bytes of a text.
* `Bytes.text?`: the text that the bytes spell, if they are UTF-8.
* `Bytes.lossy`: the text with every malformed run replaced by U+FFFD.
* `Bytes.hex`, `Bytes.ofHex?`: hexadecimal digits.
* `ofText_injective`, `text?_ofText`, `text?_eq_some_iff`: reading inverts writing, both ways.
-/

set_option autoImplicit false

namespace HostFleet

abbrev Bytes := List UInt8

namespace Bytes

/-! ## UTF-8 -/

/-- The UTF-8 bytes of a text. -/
def ofText (s : String) : Bytes := s.toByteArray.data.toList

/-- The text spelled by the bytes, when they are UTF-8. -/
def text? (b : Bytes) : Option String := String.fromUTF8? ⟨b.toArray⟩

theorem ofText_injective {s t : String} (h : ofText s = ofText t) : s = t := by
  have h1 : s.toByteArray.data = t.toByteArray.data := Array.toList_inj.1 h
  exact String.toByteArray_inj.1 (ByteArray.ext h1)

theorem text?_ofText (s : String) : text? (ofText s) = some s := by
  have h : (⟨(ofText s).toArray⟩ : ByteArray) = s.toByteArray := ByteArray.ext (by simp [ofText])
  simp [text?, String.fromUTF8?, h, s.isValidUTF8, String.fromUTF8]

theorem text?_eq_some_iff {b : Bytes} {s : String} : text? b = some s ↔ b = ofText s := by
  constructor
  · intro h
    simp only [text?, String.fromUTF8?] at h
    split at h
    · injection h with h
      subst h
      simp [ofText, String.fromUTF8]
    · simp at h
  · rintro rfl
    exact text?_ofText s

/-! ## Malformed text -/

/-- A character of which some continuation bytes are still to come. -/
structure Partial where
  /-- The bits read so far. -/
  value : Nat
  /-- How many continuation bytes are missing. -/
  missing : Nat
  /-- The range of the next one. -/
  low : UInt8
  high : UInt8

/-- What a first byte announces: nothing if it is a character or malformed. -/
def Partial.ofLead (b : UInt8) : Option Partial :=
  if 0xC2 ≤ b ∧ b ≤ 0xDF then some ⟨b.toNat % 0x20, 1, 0x80, 0xBF⟩
  else if b = 0xE0 then some ⟨0, 2, 0xA0, 0xBF⟩
  else if b = 0xED then some ⟨0xD, 2, 0x80, 0x9F⟩
  else if 0xE1 ≤ b ∧ b ≤ 0xEF then some ⟨b.toNat % 0x10, 2, 0x80, 0xBF⟩
  else if b = 0xF0 then some ⟨0, 3, 0x90, 0xBF⟩
  else if 0xF1 ≤ b ∧ b ≤ 0xF3 then some ⟨b.toNat % 8, 3, 0x80, 0xBF⟩
  else if b = 0xF4 then some ⟨4, 3, 0x80, 0x8F⟩
  else none

/-- Decoding under way: the characters so far, last first, and the one begun. -/
structure Decoding where
  chars : List Char
  begun : Option Partial

/-- Reads a byte where a character starts. -/
def Decoding.start (chars : List Char) (b : UInt8) : Decoding :=
  if b < 0x80 then ⟨Char.ofNat b.toNat :: chars, none⟩
  else match Partial.ofLead b with
    | some p => ⟨chars, some p⟩
    | none => ⟨'\uFFFD' :: chars, none⟩

/-- Reads one byte; a begun character that it cannot continue becomes one U+FFFD. -/
def Decoding.step (d : Decoding) (b : UInt8) : Decoding :=
  match d.begun with
  | none => start d.chars b
  | some p =>
    if p.low ≤ b ∧ b ≤ p.high then
      let value := p.value * 0x40 + b.toNat % 0x40
      if p.missing = 1 then ⟨Char.ofNat value :: d.chars, none⟩
      else ⟨d.chars, some ⟨value, p.missing - 1, 0x80, 0xBF⟩⟩
    else start ('\uFFFD' :: d.chars) b

/-- The text, with U+FFFD for every maximal malformed run. -/
def lossy (b : Bytes) : String :=
  let d := b.foldl Decoding.step ⟨[], none⟩
  String.ofList (if d.begun.isSome then '\uFFFD' :: d.chars else d.chars).reverse

/-! ## Hexadecimal digits -/

def hexDigit (n : Nat) : Char := if n < 10 then Char.ofNat (48 + n) else Char.ofNat (87 + n)

def hexByte (b : UInt8) : List Char := [hexDigit (b.toNat / 16), hexDigit (b.toNat % 16)]

/-- Two lowercase digits a byte. -/
def hex (b : Bytes) : String := String.ofList (b.flatMap hexByte)

/-- The value of a hexadecimal digit in either case. -/
def digitOfHex? (c : Char) : Option Nat :=
  if '0' ≤ c ∧ c ≤ '9' then some (c.toNat - 48)
  else if 'a' ≤ c ∧ c ≤ 'f' then some (c.toNat - 87)
  else if 'A' ≤ c ∧ c ≤ 'F' then some (c.toNat - 55)
  else none

def ofHexChars? : List Char → Option Bytes
  | [] => some []
  | [_] => none
  | a :: b :: rest => do
    let high ← digitOfHex? a
    let low ← digitOfHex? b
    let tail ← ofHexChars? rest
    return UInt8.ofNat (high * 16 + low) :: tail

def ofHex? (s : String) : Option Bytes := ofHexChars? s.toList

end Bytes

end HostFleet
