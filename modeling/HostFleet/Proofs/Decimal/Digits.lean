import HostFleet.Decimal.Integer

/-! # Written integers

An integer is written in decimal digits, behind a minus if it is negative.

* `toList_toString`: the characters of an integer.
* `natOf_toDigits`, `natural?_toDigits`: the digits of a number have its value.
* `signed?_toString`: an integer within the bounds is read back.
* `head?_toDigits`: only zero begins with the digit zero.
* `Spells`: digits with a sign or without one; `signed?_eq_some_iff`: nothing else is read.
-/

set_option autoImplicit false

namespace HostFleet.Decimal

open Json.Numeral (digitValue isDigit natOf)

/-! ## Digits -/

theorem isDigit_iff {c : Char} : isDigit c = true ↔ 48 ≤ c.toNat ∧ c.toNat ≤ 57 := by
  unfold isDigit
  rw [Bool.and_eq_true, decide_eq_true_eq, decide_eq_true_eq]
  rfl

theorem isDigit_of_mem_toDigits {n : Nat} {c : Char} (h : c ∈ Nat.toDigits 10 n) :
    isDigit c = true := by
  have hdigit := Nat.isDigit_of_mem_toDigits (by decide) (by decide) h
  simp only [Char.isDigit, Bool.and_eq_true, decide_eq_true_eq] at hdigit
  exact isDigit_iff.2 hdigit

theorem natOf_toDigits (n : Nat) : natOf (Nat.toDigits 10 n) = n := by
  have hfold := Nat.ofDigitChars_ten_toDigits (n := n)
  rw [Nat.ofDigitChars_eq_foldl] at hfold
  exact hfold

theorem natural?_toDigits (n : Nat) : natural? (Nat.toDigits 10 n) = some n := by
  have hempty : (Nat.toDigits 10 n).isEmpty = false :=
    List.isEmpty_eq_false_iff.2 Nat.toDigits_ne_nil
  have hall : (Nat.toDigits 10 n).all isDigit = true :=
    List.all_eq_true.2 fun c hc => isDigit_of_mem_toDigits hc
  unfold natural?
  rw [hempty, hall, natOf_toDigits]
  rfl

theorem toDigits_eq_cons (n : Nat) : ∃ c ds, Nat.toDigits 10 n = c :: ds ∧ isDigit c = true := by
  cases hdigits : Nat.toDigits 10 n with
  | nil => exact absurd hdigits Nat.toDigits_ne_nil
  | cons c ds =>
    refine ⟨c, ds, rfl, isDigit_of_mem_toDigits (n := n) ?_⟩
    rw [hdigits]
    exact List.mem_cons_self

/-- Only zero begins with the digit zero. -/
theorem head?_toDigits {n : Nat} (h : 0 < n) : (Nat.toDigits 10 n).head? ≠ some '0' := by
  induction n using Nat.strongRecOn with
  | ind n ih =>
    by_cases hn : n < 10
    · have hsmall : ∀ m < 10, 0 < m → [m.digitChar].head? ≠ some '0' := by decide
      rw [Nat.toDigits_of_lt_base hn]
      exact hsmall n hn h
    · have hdiv : 0 < n / 10 := Nat.div_pos (by omega) (by decide)
      have hhead := ih (n / 10) (by omega) hdiv
      obtain ⟨c, ds, hdigits, -⟩ := toDigits_eq_cons (n / 10)
      rw [Nat.toDigits_of_base_le (by decide) (by omega), hdigits]
      rw [hdigits] at hhead
      exact hhead

/-! ## Integers -/

theorem toList_toString (i : Int) :
    (toString i).toList =
      if 0 ≤ i then Nat.toDigits 10 i.toNat else '-' :: Nat.toDigits 10 (-i).toNat := by
  have hrepr : toString i = i.repr := rfl
  rw [hrepr, Int.repr_eq_if]
  split
  · rw [Nat.repr_eq_ofList_toDigits, String.toList_ofList]
  · rw [Nat.repr_eq_ofList_toDigits, String.toList_append, String.toList_ofList,
      String.toList_ofList]
    rfl

theorem signed?_toString {low high i : Int} (h : low ≤ i ∧ i ≤ high) :
    signed? low high (toString i).toList = some i := by
  rw [toList_toString]
  by_cases hi : 0 ≤ i
  · obtain ⟨c, ds, hdigits, hc⟩ := toDigits_eq_cons i.toNat
    have hread : natural? (c :: ds) = some i.toNat := hdigits ▸ natural?_toDigits i.toNat
    have hvalue : (i.toNat : Int) = i := Int.toNat_of_nonneg hi
    have hminus : c ≠ '-' := by
      rintro rfl
      exact absurd hc (by decide)
    have hplus : c ≠ '+' := by
      rintro rfl
      exact absurd hc (by decide)
    rw [if_pos hi, hdigits]
    unfold signed?
    split
    · next heq => exact absurd (List.cons.inj heq).1 hminus
    · next heq => exact absurd (List.cons.inj heq).1 hplus
    · simp [hread, hvalue, h]
  · have hvalue : -((-i).toNat : Int) = i := by omega
    rw [if_neg hi]
    simp [signed?, natural?_toDigits, -Int.ofNat_toNat, hvalue, h]

/-! ## Every spelling of an integer -/

/-- One or more ASCII digits with this value; zeros may lead. -/
def IsNumeral (s : List Char) (n : Nat) : Prop :=
  s ≠ [] ∧ (∀ c ∈ s, c.isDigit = true) ∧ Nat.ofDigitChars 10 s 0 = n

/-- The digits of an integer behind a sign, or without one. -/
inductive Spells : List Char → Int → Prop where
  | plain {s : List Char} {n : Nat} (h : IsNumeral s n) : Spells s n
  | plus {s : List Char} {n : Nat} (h : IsNumeral s n) : Spells ('+' :: s) n
  | minus {s : List Char} {n : Nat} (h : IsNumeral s n) : Spells ('-' :: s) (-n)

theorem natural?_eq_some_iff {s : List Char} {n : Nat} :
    natural? s = some n ↔ IsNumeral s n := by
  have hvalue : natOf s = Nat.ofDigitChars 10 s 0 := Nat.ofDigitChars_eq_foldl.symm
  have hdigits : s.all isDigit = true ↔ ∀ c ∈ s, c.isDigit = true := by
    rw [List.all_eq_true]
    refine forall₂_congr fun c _ => ?_
    rw [isDigit_iff]
    simp only [Char.isDigit, Bool.and_eq_true, decide_eq_true_eq]
    exact Iff.rfl
  unfold natural? IsNumeral
  rw [hvalue]
  by_cases hs : s = []
  · simp [hs]
  · have hempty : s.isEmpty = false := List.isEmpty_eq_false_iff.2 hs
    by_cases hall : s.all isDigit = true
    · have hchars := hdigits.1 hall
      rw [hempty, hall]
      exact ⟨fun h => ⟨hs, hchars, Option.some.inj h⟩, fun h => congrArg some h.2.2⟩
    · have hnot : ¬∀ c ∈ s, c.isDigit = true := fun h => hall (hdigits.2 h)
      simp [hall, hnot]

theorem IsNumeral.not_mem {s : List Char} {n : Nat} (h : IsNumeral s n) {c : Char}
    (hc : c.isDigit = false) : c ∉ s := by
  intro hmem
  have hdigit := h.2.1 c hmem
  rw [hc] at hdigit
  cases hdigit

theorem Spells.not_mem {s : List Char} {i : Int} (h : Spells s i) {c : Char}
    (hc : c.isDigit = false) (hplus : c ≠ '+') (hminus : c ≠ '-') : c ∉ s := by
  cases h with
  | plain h => exact h.not_mem hc
  | plus h => exact List.not_mem_cons_of_ne_of_not_mem hplus (h.not_mem hc)
  | minus h => exact List.not_mem_cons_of_ne_of_not_mem hminus (h.not_mem hc)

theorem spells_minus_iff {s : List Char} {i : Int} :
    Spells ('-' :: s) i ↔ ∃ n : Nat, IsNumeral s n ∧ -(n : Int) = i := by
  constructor
  · intro h
    cases h with
    | plain h => exact absurd (h.2.1 '-' List.mem_cons_self) (by decide)
    | minus h => exact ⟨_, h, rfl⟩
  · rintro ⟨n, h, rfl⟩
    exact .minus h

theorem spells_plus_iff {s : List Char} {i : Int} :
    Spells ('+' :: s) i ↔ ∃ n : Nat, IsNumeral s n ∧ (n : Int) = i := by
  constructor
  · intro h
    cases h with
    | plain h => exact absurd (h.2.1 '+' List.mem_cons_self) (by decide)
    | plus h => exact ⟨_, h, rfl⟩
  · rintro ⟨n, h, rfl⟩
    exact .plus h

theorem spells_iff_of_unsigned {s : List Char} {i : Int} (hminus : ∀ t, s ≠ '-' :: t)
    (hplus : ∀ t, s ≠ '+' :: t) : Spells s i ↔ ∃ n : Nat, IsNumeral s n ∧ (n : Int) = i := by
  constructor
  · intro h
    cases h with
    | plain h => exact ⟨_, h, rfl⟩
    | @plus t n h => exact absurd rfl (hplus t)
    | @minus t n h => exact absurd rfl (hminus t)
  · rintro ⟨n, h, rfl⟩
    exact .plain h

/-- What is read is an integer within the bounds, in digits with a sign or without one. -/
theorem signed?_eq_some_iff {low high i : Int} {s : List Char} :
    signed? low high s = some i ↔ Spells s i ∧ low ≤ i ∧ i ≤ high := by
  have hbound : ∀ n : Int, (if low ≤ n ∧ n ≤ high then some n else none) = some i ↔
      (low ≤ i ∧ i ≤ high) ∧ n = i := by
    intro n
    split
    · next hn =>
      rw [Option.some.injEq]
      exact ⟨fun h => ⟨h ▸ hn, h⟩, And.right⟩
    · next hn => exact ⟨fun h => (nomatch h), fun ⟨hi, h⟩ => absurd (h ▸ hi) hn⟩
  unfold signed?
  split
  · rw [spells_minus_iff]
    simp [Option.bind_eq_some_iff, natural?_eq_some_iff, hbound]
  · rw [spells_plus_iff]
    simp [Option.bind_eq_some_iff, natural?_eq_some_iff, hbound]
  · next hminus hplus =>
    rw [spells_iff_of_unsigned hminus hplus]
    simp [Option.bind_eq_some_iff, natural?_eq_some_iff, hbound]

end HostFleet.Decimal
