import HostFleet.Json.Token
import HostFleet.Proofs.Decimal.Digits
import HostFleet.Proofs.Text.Utf8

/-! # The tokens of written values

The machine reads what is written for marks, words, texts and numbers, and goes on with what stands behind.

* `Lexer.Run.outcome`: the tokens when some bytes are read to the end.
* `outcome_stringChars`: a text is read back as it was written.
* `outcome_numeral`: the spelling of a number is read as a whole, if no more of a number stands behind it.
* `isNumberChar_toString`, `isNumberChar_format`: numbers are spelled in characters of numbers.
-/

set_option autoImplicit false

namespace HostFleet.Json

open Bytes (ofChars ofChars_cons ofChars_append)
open Text.Punycode (isAscii)

namespace Lexer

/-- The tokens, last first, when these bytes are read to the end. -/
def Run.outcome (r : Run) (bytes : Bytes) : Option (List Token) :=
  (bytes.foldlM Run.step r).bind Run.finish

theorem tokens?_eq (bytes : Bytes) :
    tokens? bytes = (Run.outcome ⟨.idle, []⟩ bytes).map List.reverse := rfl

theorem outcome_cons (r : Run) (b : UInt8) (bytes : Bytes) :
    r.outcome (b :: bytes) = (r.step b).bind (·.outcome bytes) := by
  unfold Run.outcome
  rw [List.foldlM_cons]
  cases r.step b <;> rfl

theorem outcome_of_step {r r' : Run} {b : UInt8} (h : r.step b = some r') (bytes : Bytes) :
    r.outcome (b :: bytes) = r'.outcome bytes := by
  rw [outcome_cons, h, Option.bind_some]

/-! ## Marks and words -/

section Words
variable (tokens : List Token) (rest : Bytes)

theorem outcome_mark {c : Char} {t : Token} (hc : isAscii c = true)
    (h : Lexer.fresh (UInt8.ofNat c.toNat) = some (.idle, some t)) :
    Run.outcome ⟨.idle, tokens⟩ (String.utf8EncodeChar c ++ rest) =
      Run.outcome ⟨.idle, t :: tokens⟩ rest := by
  rw [Bytes.utf8EncodeChar_of_isAscii hc]
  refine outcome_of_step ?_ rest
  show Run.fresh tokens (UInt8.ofNat c.toNat) = some ⟨.idle, t :: tokens⟩
  unfold Run.fresh
  rw [h]
  rfl

theorem outcome_null : Run.outcome ⟨.idle, tokens⟩ (ofChars ['n', 'u', 'l', 'l'] ++ rest) =
    Run.outcome ⟨.idle, .null :: tokens⟩ rest := rfl

theorem outcome_true : Run.outcome ⟨.idle, tokens⟩ (ofChars ['t', 'r', 'u', 'e'] ++ rest) =
    Run.outcome ⟨.idle, .bool true :: tokens⟩ rest := rfl

theorem outcome_false : Run.outcome ⟨.idle, tokens⟩ (ofChars ['f', 'a', 'l', 's', 'e'] ++ rest) =
    Run.outcome ⟨.idle, .bool false :: tokens⟩ rest := rfl

end Words

/-! ## Texts -/

/-- Inside a string of which some bytes are read, last first. -/
def inside (done : Bytes) (tokens : List Token) : Run :=
  ⟨.string ⟨done, true, none, .plain⟩, tokens⟩

/-- A byte that stands for itself in a string. -/
structure IsPlain (b : UInt8) : Prop where
  quote : b ≠ 0x22
  backslash : b ≠ 0x5C
  control : ¬b < 0x20

section Strings
variable {done : Bytes} {tokens : List Token} {rest : Bytes}

theorem step_of_isPlain {b : UInt8} (h : IsPlain b) :
    (inside done tokens).step b = some (inside (b :: done) tokens) := by
  simp only [inside, Run.step, StringReading.step, h.quote, h.backslash, h.control, and_false, if_false,
    Option.map_some]
  rfl

theorem outcome_of_isPlain {bytes : Bytes} (h : ∀ b ∈ bytes, IsPlain b) :
    (inside done tokens).outcome (bytes ++ rest) =
      (inside (bytes.reverse ++ done) tokens).outcome rest := by
  induction bytes generalizing done with
  | nil => rfl
  | cons b bytes ih =>
    obtain ⟨hb, hbytes⟩ := List.forall_mem_cons.1 h
    rw [List.cons_append, outcome_of_step (step_of_isPlain hb), ih hbytes, List.reverse_cons,
      List.append_assoc, List.singleton_append]

theorem isPlain_of_mem_utf8EncodeChar {c : Char} (hquote : c ≠ '"') (hbackslash : c ≠ '\\')
    (hcontrol : ¬c.toNat < 0x20) {b : UInt8} (hb : b ∈ String.utf8EncodeChar c) : IsPlain b := by
  by_cases hc : isAscii c = true
  · have hsmall : c.toNat < 0x80 := of_decide_eq_true hc
    rw [Bytes.utf8EncodeChar_of_isAscii hc, List.mem_singleton] at hb
    have hnat : b.toNat = c.toNat := by
      rw [hb, UInt8.toNat_ofNat']
      omega
    refine ⟨?_, ?_, ?_⟩
    · rintro rfl
      exact hquote (Char.toNat_inj.1 hnat.symm)
    · rintro rfl
      exact hbackslash (Char.toNat_inj.1 hnat.symm)
    · rw [UInt8.lt_iff_toNat_lt, hnat]
      exact hcontrol
  · have hle := Bytes.le_of_mem_utf8EncodeChar (Bool.eq_false_iff.2 hc) hb
    refine ⟨?_, ?_, ?_⟩
    · rintro rfl
      exact absurd hle (by decide)
    · rintro rfl
      exact absurd hle (by decide)
    · rw [UInt8.lt_iff_toNat_lt]
      have hcontrol : (0x20 : UInt8).toNat = 0x20 := rfl
      omega

/-! ### Escapes -/

/-- Inside the digits of a code unit. -/
def insideUnit (done : Bytes) (value missing : Nat) (tokens : List Token) : Run :=
  ⟨.string ⟨done, true, none, .unit value missing⟩, tokens⟩

theorem digitOfHex?_hexDigit {d : Nat} (h : d < 16) :
    isAscii (Bytes.hexDigit d) = true ∧
      Bytes.digitOfHex? (Char.ofNat (UInt8.ofNat (Bytes.hexDigit d).toNat).toNat) = some d := by
  have hall : ∀ d < 16, isAscii (Bytes.hexDigit d) = true ∧
      Bytes.digitOfHex? (Char.ofNat (UInt8.ofNat (Bytes.hexDigit d).toNat).toNat) = some d := by
    decide
  exact hall d h

theorem outcome_hexDigit {d : Nat} (h : d < 16) {value missing : Nat} (hmissing : missing ≠ 1)
    (rest : Bytes) : (insideUnit done value missing tokens).outcome
      (String.utf8EncodeChar (Bytes.hexDigit d) ++ rest) =
        (insideUnit done (16 * value + d) (missing - 1) tokens).outcome rest := by
  obtain ⟨hascii, hdigit⟩ := digitOfHex?_hexDigit h
  rw [Bytes.utf8EncodeChar_of_isAscii hascii]
  refine outcome_of_step ?_ rest
  simp only [insideUnit, Run.step, StringReading.step, reduceCtorEq, false_and, if_false, hdigit,
    Option.map_some, if_neg hmissing]

/-- The last digit of a unit that is a control. -/
theorem outcome_last_hexDigit {d value : Nat} (h : d < 16) (hcontrol : 16 * value + d < 0x20)
    (rest : Bytes) : (insideUnit done value 1 tokens).outcome
      (String.utf8EncodeChar (Bytes.hexDigit d) ++ rest) =
        (inside ((String.utf8EncodeChar (Char.ofNat (16 * value + d))).reverse ++ done) tokens).outcome
          rest := by
  obtain ⟨hascii, hdigit⟩ := digitOfHex?_hexDigit h
  have hhigh : ¬(0xD800 ≤ 16 * value + d ∧ 16 * value + d ≤ 0xDBFF) := by omega
  have hlow : ¬(0xDC00 ≤ 16 * value + d ∧ 16 * value + d ≤ 0xDFFF) := by omega
  rw [Bytes.utf8EncodeChar_of_isAscii hascii]
  refine outcome_of_step ?_ rest
  simp only [insideUnit, Run.step, StringReading.step, reduceCtorEq, false_and, if_false, hdigit,
    Option.map_some, if_true, StringReading.pushUnit, if_neg hhigh, if_neg hlow,
    Bytes.ofText_toString]
  rfl

theorem outcome_hexDigits4 {n : Nat} (h : n < 0x20) (rest : Bytes) :
    (insideUnit done 0 4 tokens).outcome (ofChars (hexDigits4 n) ++ rest) =
      (inside ((String.utf8EncodeChar (Char.ofNat n)).reverse ++ done) tokens).outcome rest := by
  have hdigits : hexDigits4 n = [Bytes.hexDigit (n / 4096 % 16), Bytes.hexDigit (n / 256 % 16),
    Bytes.hexDigit (n / 16 % 16), Bytes.hexDigit (n % 16)] := rfl
  have hvalue : 16 * (16 * (16 * (16 * 0 + n / 4096 % 16) + n / 256 % 16) + n / 16 % 16) + n % 16 =
      n := by
    omega
  rw [hdigits]
  simp only [ofChars_cons, List.append_assoc]
  rw [outcome_hexDigit (by omega) (by decide), outcome_hexDigit (by omega) (by decide),
    outcome_hexDigit (by omega) (by decide), outcome_last_hexDigit (by omega) (by omega), hvalue]
  rfl

/-- What is written for a character puts its bytes into the string. -/
theorem outcome_escape (c : Char) (rest : Bytes) :
    (inside done tokens).outcome (ofChars (escape c) ++ rest) =
      (inside ((String.utf8EncodeChar c).reverse ++ done) tokens).outcome rest := by
  unfold escape
  split
  · rfl
  · rfl
  · rfl
  · rfl
  · rfl
  · rfl
  · rfl
  · next hquote hbackslash _ _ _ _ _ =>
    split
    · next hcontrol =>
      have hunit : (inside done tokens).outcome (ofChars ('\\' :: 'u' :: hexDigits4 c.toNat) ++ rest) =
          (insideUnit done 0 4 tokens).outcome (ofChars (hexDigits4 c.toNat) ++ rest) := rfl
      rw [hunit, outcome_hexDigits4 hcontrol, Char.ofNat_toNat]
    · next hcontrol =>
      have hplain : ∀ b ∈ String.utf8EncodeChar c, IsPlain b := fun b hb =>
        isPlain_of_mem_utf8EncodeChar hquote hbackslash hcontrol hb
      rw [ofChars_cons, Bytes.ofChars_nil, List.append_nil, outcome_of_isPlain hplain]

theorem outcome_escapes (w : List Char) (rest : Bytes) :
    (inside done tokens).outcome (ofChars (w.flatMap escape) ++ rest) =
      (inside ((ofChars w).reverse ++ done) tokens).outcome rest := by
  induction w generalizing done with
  | nil => rfl
  | cons c w ih =>
    rw [List.flatMap_cons, ofChars_append, List.append_assoc, outcome_escape, ih, ofChars_cons,
      List.reverse_append, List.append_assoc]

/-- A text is read back as it was written. -/
theorem outcome_stringChars (s : String) (tokens : List Token) (rest : Bytes) :
    Run.outcome ⟨.idle, tokens⟩ (ofChars (stringChars s) ++ rest) =
      Run.outcome ⟨.idle, .string (some s) :: tokens⟩ rest := by
  have hopen : Run.outcome ⟨.idle, tokens⟩ (ofChars (stringChars s) ++ rest) =
      (inside [] tokens).outcome (ofChars (s.toList.flatMap escape) ++ (0x22 :: rest)) := by
    unfold stringChars
    rw [List.cons_append, ofChars_cons, ofChars_append, List.append_assoc, List.append_assoc]
    rfl
  have hclose : (inside (ofChars s.toList).reverse tokens).step 0x22 =
      some ⟨.idle, .string (some s) :: tokens⟩ := by
    have htext : Bytes.text? (ofChars s.toList).reverse.reverse = some s := by
      rw [List.reverse_reverse, Bytes.text?_eq_some_iff, Bytes.ofText_eq_flatMap]
      rfl
    simp only [inside, Run.step, and_self, if_true, StringReading.finish, Option.isNone_none,
      Bool.and_self, htext]
  rw [hopen, outcome_escapes, List.append_nil, outcome_of_step hclose]

end Strings

/-! ## Numbers -/

/-- The bytes do not go on with a number. -/
def EndsNumber (bytes : Bytes) : Prop := ∀ b ∈ bytes.head?, isNumberByte b = false

/-- The character may stand in a number. -/
def isNumberChar (c : Char) : Bool := isAscii c && isNumberByte (UInt8.ofNat c.toNat)

theorem isNumberChar_iff {c : Char} : isNumberChar c = true ↔
    isAscii c = true ∧ isNumberByte (UInt8.ofNat c.toNat) = true := by
  unfold isNumberChar
  rw [Bool.and_eq_true]

theorem fresh_of_isNumberByte {b : UInt8} (h : isNumberByte b = true) :
    Lexer.fresh b = some (.number [Char.ofNat b.toNat], none) := by
  have hall : ∀ n < 256, isNumberByte (UInt8.ofNat n) = true →
      Lexer.fresh (UInt8.ofNat n) = some (.number [Char.ofNat (UInt8.ofNat n).toNat], none) := by
    decide +kernel
  have hb : UInt8.ofNat b.toNat = b := UInt8.ofNat_toNat
  have hfresh := hall b.toNat b.toNat_lt
  rw [hb] at hfresh
  exact hfresh h

section Numbers
variable {tokens : List Token} {rest : Bytes}

theorem ofNat_toNat_of_isAscii {c : Char} (h : isAscii c = true) :
    Char.ofNat (UInt8.ofNat c.toNat).toNat = c := by
  have hc : c.toNat < 0x80 := of_decide_eq_true h
  have hnat : (UInt8.ofNat c.toNat).toNat = c.toNat := by
    rw [UInt8.toNat_ofNat']
    omega
  rw [hnat, Char.ofNat_toNat]

theorem outcome_number {w : List Char} (h : ∀ c ∈ w, isNumberChar c = true) (done : List Char) :
    Run.outcome ⟨.number done, tokens⟩ (ofChars w ++ rest) =
      Run.outcome ⟨.number (w.reverse ++ done), tokens⟩ rest := by
  induction w generalizing done with
  | nil => rfl
  | cons c w ih =>
    obtain ⟨hc, hw⟩ := List.forall_mem_cons.1 h
    obtain ⟨hascii, hbyte⟩ := isNumberChar_iff.1 hc
    have hstep : Run.step ⟨.number done, tokens⟩ (UInt8.ofNat c.toNat) =
        some ⟨.number (c :: done), tokens⟩ := by
      simp only [Run.step, hbyte, if_true, ofNat_toNat_of_isAscii hascii]
    rw [ofChars_cons, Bytes.utf8EncodeChar_of_isAscii hascii, List.append_assoc,
      List.singleton_append, outcome_of_step hstep, ih hw, List.reverse_cons, List.append_assoc,
      List.singleton_append]

theorem outcome_number_end (h : EndsNumber rest) (done : List Char) :
    Run.outcome ⟨.number done, tokens⟩ rest =
      (finishNumber done).bind fun t => Run.outcome ⟨.idle, t :: tokens⟩ rest := by
  cases rest with
  | nil =>
    show (finishNumber done).map (· :: tokens) = (finishNumber done).bind fun t => some (t :: tokens)
    exact Option.map_eq_bind
  | cons b rest =>
    have hb : isNumberByte b = false := h b rfl
    have hstep : Run.step ⟨.number done, tokens⟩ b =
        (finishNumber done).bind fun t => Run.fresh (t :: tokens) b := by
      simp only [Run.step, hb, Bool.false_eq_true, if_false]
    rw [outcome_cons, hstep, Option.bind_assoc]
    simp only [outcome_cons]
    rfl

/-- The spelling of a number is read as a whole, if no more of a number stands behind it. -/
theorem outcome_numeral {w : List Char} (hw : w ≠ []) (h : ∀ c ∈ w, isNumberChar c = true)
    (hrest : EndsNumber rest) :
    Run.outcome ⟨.idle, tokens⟩ (ofChars w ++ rest) =
      (Numeral.read? w).bind fun x => Run.outcome ⟨.idle, .number x.value? :: tokens⟩ rest := by
  cases w with
  | nil => exact absurd rfl hw
  | cons c w =>
    obtain ⟨hc, hw⟩ := List.forall_mem_cons.1 h
    obtain ⟨hascii, hbyte⟩ := isNumberChar_iff.1 hc
    have hstep : Run.step ⟨.idle, tokens⟩ (UInt8.ofNat c.toNat) = some ⟨.number [c], tokens⟩ := by
      show Run.fresh tokens (UInt8.ofNat c.toNat) = some ⟨.number [c], tokens⟩
      unfold Run.fresh
      rw [fresh_of_isNumberByte hbyte, ofNat_toNat_of_isAscii hascii]
      rfl
    rw [ofChars_cons, Bytes.utf8EncodeChar_of_isAscii hascii, List.append_assoc,
      List.singleton_append, outcome_of_step hstep, outcome_number hw, outcome_number_end hrest]
    unfold finishNumber
    rw [List.reverse_append, List.reverse_reverse, List.reverse_singleton, List.singleton_append,
      Option.bind_map]
    rfl

end Numbers

end Lexer

/-! ## Spelling -/

open Lexer (isNumberChar)

theorem isNumberChar_of_isDigit {c : Char} (h : Numeral.isDigit c = true) :
    isNumberChar c = true := by
  obtain ⟨hlow, hhigh⟩ := Decimal.isDigit_iff.1 h
  have hall : ∀ n < 58, 48 ≤ n → isNumberChar (Char.ofNat n) = true := by decide
  have hc := hall c.toNat (by omega) hlow
  rw [Char.ofNat_toNat] at hc
  exact hc

theorem isNumberChar_digits {n : Nat} : ∀ c ∈ Decimal.digitList n, isNumberChar c = true :=
  fun _ hc => isNumberChar_of_isDigit (Decimal.isDigit_of_mem_toDigits hc)

theorem isNumberChar_zeros {n : Nat} : ∀ c ∈ Decimal.zeros n, isNumberChar c = true := by
  intro c hc
  rw [List.eq_of_mem_replicate hc]
  rfl

theorem isNumberChar_trimZeros {ds : List Char} (h : ∀ c ∈ ds, isNumberChar c = true) :
    ∀ c ∈ Decimal.trimZeros ds, isNumberChar c = true := by
  intro c hc
  have hmem := (List.dropWhile_sublist _).mem (List.mem_reverse.1 hc)
  exact h c (List.mem_reverse.1 hmem)

theorem isNumberChar_spell {ds : List Char} (h : ∀ c ∈ ds, isNumberChar c = true) (place : Int) :
    ∀ c ∈ numberStyle.spell ds place, isNumberChar c = true := by
  have happend : ∀ {v w : List Char}, (∀ c ∈ v, isNumberChar c = true) →
      (∀ c ∈ w, isNumberChar c = true) → ∀ c ∈ v ++ w, isNumberChar c = true :=
    fun hv hw c hc => (List.mem_append.1 hc).elim (hv c) (hw c)
  have hcons : ∀ {c : Char} {w : List Char}, isNumberChar c = true →
      (∀ c ∈ w, isNumberChar c = true) → ∀ d ∈ c :: w, isNumberChar d = true :=
    fun hc hw => List.forall_mem_cons.2 ⟨hc, hw⟩
  have hnil : ∀ c ∈ ([] : List Char), isNumberChar c = true := List.forall_mem_nil _
  unfold Decimal.Style.spell
  split
  · split
    · refine happend ?_ (hcons rfl ?_)
      · intro c hc
        exact happend h isNumberChar_zeros c (List.mem_of_mem_take hc)
      · split
        · exact hcons rfl hnil
        · intro c hc
          exact h c (List.mem_of_mem_drop hc)
    · exact happend (hcons rfl (hcons rfl isNumberChar_zeros)) h
  · refine happend (happend ?_ ?_) isNumberChar_digits
    · split
      · exact hnil
      · exact h
      · next d more _ =>
        obtain ⟨hd, hmore⟩ := List.forall_mem_cons.1 h
        exact hcons hd (hcons rfl hmore)
    · split
      · exact hcons rfl (hcons rfl hnil)
      · exact hcons rfl (hcons rfl hnil)

theorem spell_ne_nil (ds : List Char) (place : Int) : numberStyle.spell ds place ≠ [] := by
  unfold Decimal.Style.spell
  split
  · split
    · exact List.append_ne_nil_of_right_ne_nil _ (List.cons_ne_nil _ _)
    · exact List.cons_ne_nil _ _
  · refine List.append_ne_nil_of_right_ne_nil _ ?_
    exact Nat.toDigits_ne_nil

/-- A finite number is spelled in characters of numbers. -/
theorem isNumberChar_format (b : Decimal.Binary) :
    numberStyle.format b ≠ [] ∧ ∀ c ∈ numberStyle.format b, isNumberChar c = true := by
  have hsign : ∀ c ∈ (if b.negative then ['-'] else []), isNumberChar c = true := by
    split
    · exact List.forall_mem_singleton.2 rfl
    · exact List.forall_mem_nil _
  unfold Decimal.Style.format
  dsimp only
  split
  · refine ⟨List.append_ne_nil_of_right_ne_nil _ (List.cons_ne_nil _ _), ?_⟩
    intro c hc
    rcases List.mem_append.1 hc with hc | hc
    · exact hsign c hc
    · have hzero : ∀ c ∈ ['0', '.', '0'], isNumberChar c = true :=
        List.forall_mem_cons.2 ⟨rfl, List.forall_mem_cons.2 ⟨rfl, List.forall_mem_singleton.2 rfl⟩⟩
      exact hzero c hc
  · refine ⟨List.append_ne_nil_of_right_ne_nil _ (spell_ne_nil _ _), ?_⟩
    intro c hc
    rcases List.mem_append.1 hc with hc | hc
    · exact hsign c hc
    · exact isNumberChar_spell (isNumberChar_trimZeros isNumberChar_digits) _ c hc

theorem isNumberChar_toString (i : Int) :
    (toString i).toList ≠ [] ∧ ∀ c ∈ (toString i).toList, isNumberChar c = true := by
  rw [Decimal.toList_toString]
  split
  · exact ⟨Nat.toDigits_ne_nil, isNumberChar_digits⟩
  · exact ⟨List.cons_ne_nil _ _, List.forall_mem_cons.2 ⟨rfl, isNumberChar_digits⟩⟩

end HostFleet.Json
