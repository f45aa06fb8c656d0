import HostFleet.Bytes
import HostFleet.Text.Punycode
import Mathlib.Tactic.SplitIfs

/-! # The bytes of a text

The bytes of a text are those of its characters. An ASCII character is one byte of the same number, and
no other character has such a byte.

* `ofText_ofList`, `ofChars_append`: the bytes of the parts, one after the other.
* `utf8EncodeChar_of_isAscii`, `le_of_mem_utf8EncodeChar`: the bytes of one character.
* `mem_ofText_iff`: an ASCII character is found in a text as its byte is in the bytes.
* `ofText_le_ofText_iff`: texts are in the order of their bytes.
-/

set_option autoImplicit false

namespace HostFleet.Bytes

open Text.Punycode (isAscii)

/-! ## One character -/

theorem utf8EncodeChar_of_isAscii {c : Char} (h : isAscii c = true) :
    String.utf8EncodeChar c = [UInt8.ofNat c.toNat] := by
  have hc : c.val.toNat ≤ 127 := Nat.le_of_lt_succ (of_decide_eq_true h)
  unfold String.utf8EncodeChar
  simp only [if_pos hc]
  rfl

/-- The bytes of a character beyond ASCII are no ASCII characters. -/
theorem le_of_mem_utf8EncodeChar {c : Char} {b : UInt8} (h : isAscii c = false)
    (hb : b ∈ String.utf8EncodeChar c) : 0x80 ≤ b.toNat := by
  have hc : ¬c.val.toNat ≤ 127 := by
    intro hle
    have hascii : isAscii c = true := decide_eq_true (Nat.lt_succ_of_le hle)
    rw [hascii] at h
    cases h
  have hbound : c.val.toNat < 0x110000 := by
    rcases c.valid with hlow | ⟨-, hhigh⟩
    · exact Nat.lt_trans hlow (by decide)
    · exact hhigh
  unfold String.utf8EncodeChar at hb
  simp only [if_neg hc] at hb
  split at hb
  · simp only [List.mem_cons, List.not_mem_nil, or_false] at hb
    rcases hb with rfl | rfl <;> rw [UInt8.toNat_ofNat'] <;> omega
  · split at hb
    · simp only [List.mem_cons, List.not_mem_nil, or_false] at hb
      rcases hb with rfl | rfl | rfl <;> rw [UInt8.toNat_ofNat'] <;> omega
    · simp only [List.mem_cons, List.not_mem_nil, or_false] at hb
      rcases hb with rfl | rfl | rfl | rfl <;> rw [UInt8.toNat_ofNat'] <;> omega

/-! ## Texts -/

/-- The UTF-8 bytes of some characters. -/
def ofChars (w : List Char) : Bytes := w.flatMap String.utf8EncodeChar

theorem ofChars_nil : ofChars [] = [] := rfl

theorem ofChars_cons (c : Char) (w : List Char) :
    ofChars (c :: w) = String.utf8EncodeChar c ++ ofChars w := List.flatMap_cons

theorem ofChars_append (v w : List Char) : ofChars (v ++ w) = ofChars v ++ ofChars w :=
  List.flatMap_append

theorem ofText_ofList (w : List Char) :
    ofText (String.ofList w) = w.flatMap String.utf8EncodeChar := by
  unfold ofText
  rw [String.toByteArray_ofList, List.utf8Encode, List.data_toByteArray]

theorem ofText_eq_flatMap (s : String) : ofText s = s.toList.flatMap String.utf8EncodeChar := by
  rw [← ofText_ofList, String.ofList_toList]

theorem ofText_append (s t : String) : ofText (s ++ t) = ofText s ++ ofText t := by
  rw [ofText_eq_flatMap, ofText_eq_flatMap, ofText_eq_flatMap, String.toList_append,
    List.flatMap_append]

theorem ofText_toString (c : Char) : ofText c.toString = String.utf8EncodeChar c := by
  rw [ofText_eq_flatMap, Char.toString, String.toList_singleton, List.flatMap_singleton]

theorem ofText_ne_nil {s : String} (h : s ≠ "") : ofText s ≠ [] := by
  intro hnil
  have hempty : ofText "" = [] := rfl
  exact h (ofText_injective (hnil.trans hempty.symm))

theorem mem_ofText_iff {c : Char} (h : isAscii c = true) {s : String} :
    UInt8.ofNat c.toNat ∈ ofText s ↔ c ∈ s.toList := by
  have hc : c.toNat < 0x80 := of_decide_eq_true h
  rw [ofText_eq_flatMap, List.mem_flatMap]
  constructor
  · rintro ⟨d, hd, hmem⟩
    by_cases hascii : isAscii d = true
    · have hd' : d.toNat < 0x80 := of_decide_eq_true hascii
      rw [utf8EncodeChar_of_isAscii hascii, List.mem_singleton] at hmem
      have hnat := congrArg UInt8.toNat hmem
      rw [UInt8.toNat_ofNat', UInt8.toNat_ofNat'] at hnat
      have heq : c.toNat = d.toNat := by omega
      exact Char.toNat_inj.1 heq ▸ hd
    · have hle := le_of_mem_utf8EncodeChar (Bool.eq_false_iff.2 hascii) hmem
      rw [UInt8.toNat_ofNat'] at hle
      omega
  · intro hmem
    refine ⟨c, hmem, ?_⟩
    rw [utf8EncodeChar_of_isAscii h]
    exact List.mem_singleton.2 rfl

/-! ## Order -/

theorem cons_lt_cons_of_le {a b : Nat} {s t : Bytes} (hb : b < 256) (hle : a ≤ b)
    (hrest : a = b → s < t) : UInt8.ofNat a :: s < UInt8.ofNat b :: t := by
  rcases Nat.lt_or_eq_of_le hle with hlt | rfl
  · refine List.cons_lt_cons_iff.2 (.inl ?_)
    rw [UInt8.lt_iff_toNat_lt, UInt8.toNat_ofNat', UInt8.toNat_ofNat']
    omega
  · exact List.cons_lt_cons_iff.2 (.inr ⟨rfl, hrest rfl⟩)

/-- Of two characters the greater one has the greater bytes, whatever stands behind. -/
theorem utf8EncodeChar_append_lt {c d : Char} (h : c < d) (x y : Bytes) :
    String.utf8EncodeChar c ++ x < String.utf8EncodeChar d ++ y := by
  have hlt : c.val.toNat < d.val.toNat := h
  have hd : d.val.toNat < 0x110000 := by
    rcases d.valid with hlow | ⟨-, hhigh⟩
    · exact Nat.lt_trans hlow (by decide)
    · exact hhigh
  unfold String.utf8EncodeChar
  generalize c.val.toNat = v at hlt
  generalize d.val.toNat = w at hlt hd
  simp only
  -- one case for each number of bytes; the first byte that differs is smaller on the left
  split_ifs
  all_goals simp only [List.cons_append, List.nil_append]
  all_goals repeat' first
    | omega
    | refine cons_lt_cons_of_le (by omega) (by omega) fun _ => ?_

theorem append_lt_append (p : Bytes) {x y : Bytes} (h : x < y) : p ++ x < p ++ y := by
  induction p with
  | nil => exact h
  | cons b p ih => exact List.cons_lt_cons_iff.2 (.inr ⟨rfl, ih⟩)

theorem ofChars_lt_ofChars {v w : List Char} (h : v < w) : ofChars v < ofChars w := by
  induction v generalizing w with
  | nil =>
    cases w with
    | nil => exact absurd h (List.lt_irrefl [])
    | cons d w =>
      obtain ⟨b, bytes, hbytes⟩ := List.exists_cons_of_ne_nil (String.utf8EncodeChar_ne_nil (c := d))
      rw [ofChars_cons, hbytes]
      exact List.nil_lt_cons b _
  | cons c v ih =>
    cases w with
    | nil => exact absurd h (List.not_lt_nil _)
    | cons d w =>
      rw [ofChars_cons, ofChars_cons]
      rcases List.cons_lt_cons_iff.1 h with hcd | ⟨rfl, hvw⟩
      · exact utf8EncodeChar_append_lt hcd _ _
      · exact append_lt_append _ (ih hvw)

theorem ofText_lt_ofText {s t : String} (h : s < t) : ofText s < ofText t := by
  rw [ofText_eq_flatMap, ofText_eq_flatMap]
  exact ofChars_lt_ofChars h

/-- Texts are in the order of their bytes. -/
theorem ofText_le_ofText_iff {s t : String} : ofText s ≤ ofText t ↔ s ≤ t := by
  constructor
  · intro h
    rw [← String.not_lt]
    exact fun hlt => h (ofText_lt_ofText hlt)
  · intro h hlt
    rcases Decidable.em (s < t) with hst | hst
    · exact List.lt_asymm hlt (ofText_lt_ofText hst)
    · have heq : s = t := String.le_antisymm h (String.not_lt.1 hst)
      exact List.lt_irrefl _ (heq ▸ hlt)

end HostFleet.Bytes
