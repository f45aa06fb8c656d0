import HostFleet.Proofs.Json.Kept

/-! # Values without fractions

An integer of 64 bits, signed or unsigned, is read back as it was written. So is a value in which all
numbers are such integers.

* `reread?_integer`: the integers.
* `IsWhole`: the values without other numbers; `IsWhole.reread?_eq`: they are read again as their trees.
* `IsWhole.parse?_render`: the same for their compact text.
-/

set_option autoImplicit false

namespace HostFleet.Json

open Decimal (isDigit_of_mem_toDigits maxNat64 minInt64 natOf_toDigits)

/-! ## Integers -/

namespace Numeral

theorem le_foldl (ds : List Char) (n : Nat) :
    n ≤ ds.foldl (fun n c => 10 * n + digitValue c) n := by
  induction ds generalizing n with
  | nil => exact Nat.le_refl n
  | cons c ds ih =>
    rw [List.foldl_cons]
    have hmore := ih (10 * n + digitValue c)
    omega

/-- Digits whose number fits are all taken. -/
theorem absorb_of_le {ds : List Char} {n : Nat}
    (h : ds.foldl (fun n c => 10 * n + digitValue c) n ≤ limit) :
    absorb n ds = (ds.foldl (fun n c => 10 * n + digitValue c) n, []) := by
  induction ds generalizing n with
  | nil => rfl
  | cons c ds ih =>
    rw [List.foldl_cons] at h ⊢
    have hnext : 10 * n + digitValue c ≤ limit := Nat.le_trans (le_foldl ds _) h
    unfold absorb
    dsimp only
    rw [if_pos hnext, ih h]

theorem absorb_toDigits {n : Nat} (h : n ≤ limit) : absorb 0 (Nat.toDigits 10 n) = (n, []) := by
  have hvalue : (Nat.toDigits 10 n).foldl (fun n c => 10 * n + digitValue c) 0 = n :=
    natOf_toDigits n
  rw [absorb_of_le (by rw [hvalue]; exact h), hvalue]

theorem digits1_toDigits (n : Nat) :
    digits1 (Nat.toDigits 10 n) = some (Nat.toDigits 10 n, []) := by
  have hall : ∀ c ∈ Nat.toDigits 10 n, isDigit c = true := fun c hc => isDigit_of_mem_toDigits hc
  obtain ⟨c, ds, hdigits, -⟩ := Decimal.toDigits_eq_cons n
  have hparts : digits (Nat.toDigits 10 n) = (c :: ds, []) := by
    have htake : (Nat.toDigits 10 n ++ []).takeWhile isDigit = Nat.toDigits 10 n ++ [] :=
      List.takeWhile_append_of_pos hall
    have hdrop : (Nat.toDigits 10 n ++ []).dropWhile isDigit = [] :=
      List.dropWhile_append_of_pos hall
    rw [List.append_nil] at htake hdrop
    unfold digits
    rw [htake, hdrop, hdigits]
  unfold digits1
  rw [hparts, hdigits]

/-- No number but zero begins with a zero. -/
theorem leadingZero_toDigits (n : Nat) :
    ((Nat.toDigits 10 n).length > 1 && (Nat.toDigits 10 n).head? == some '0') = false := by
  by_cases hn : 0 < n
  · rw [beq_false_of_ne (Decimal.head?_toDigits hn), Bool.and_false]
  · obtain rfl : n = 0 := by omega
    rfl

theorem read?_toDigits (n : Nat) :
    read? (Nat.toDigits 10 n) = some ⟨false, Nat.toDigits 10 n, none, none⟩ := by
  obtain ⟨c, ds, hdigits, hc⟩ := Decimal.toDigits_eq_cons n
  have hminus : c ≠ '-' := by
    rintro rfl
    exact absurd hc (by decide)
  have hdigits1 := digits1_toDigits n
  have hzero := leadingZero_toDigits n
  rw [hdigits] at hdigits1 hzero ⊢
  unfold read?
  split
  next negative s hsign =>
    split at hsign
    · next heq => exact absurd (List.cons.inj heq).1 hminus
    · injection hsign with hnegative hs
      subst hnegative hs
      simp only [hdigits1, hzero, Option.bind_eq_bind, Option.bind_some, Bool.false_eq_true, if_false]
      rfl

theorem read?_minus_toDigits (n : Nat) :
    read? ('-' :: Nat.toDigits 10 n) = some ⟨true, Nat.toDigits 10 n, none, none⟩ := by
  unfold read?
  simp only [digits1_toDigits, leadingZero_toDigits, Option.bind_eq_bind, Option.bind_some,
    Bool.false_eq_true, if_false]
  rfl

end Numeral

/-- An integer of 64 bits is read back as it was written. -/
theorem reread?_integer {i : Int} (hlow : minInt64 ≤ i) (hhigh : i ≤ maxNat64) :
    (Number.integer i).reread? = some (.number (some (.integer i))) := by
  have hlow' : -9223372036854775808 ≤ i := hlow
  have hhigh' : i ≤ 18446744073709551615 := hhigh
  have hlimit : Numeral.limit = 18446744073709551615 := rfl
  unfold Number.reread? numeralNode?
  dsimp only
  rw [Decimal.toList_toString]
  by_cases hi : 0 ≤ i
  · have hvalue : (i.toNat : Int) = i := Int.toNat_of_nonneg hi
    have habsorb : Numeral.absorb 0 (Nat.toDigits 10 i.toNat) = (i.toNat, []) :=
      Numeral.absorb_toDigits (by omega)
    rw [if_pos hi, Numeral.read?_toDigits, Option.map_some]
    simp only [Numeral.value?, habsorb, hvalue, Bool.not_false, if_true]
  · have habsorb : Numeral.absorb 0 (Nat.toDigits 10 (-i).toNat) = ((-i).toNat, []) :=
      Numeral.absorb_toDigits (by omega)
    have hsmall : 0 < (-i).toNat ∧ (-i).toNat ≤ 9223372036854775808 := by omega
    have hvalue : -((-i).toNat : Int) = i := by omega
    rw [if_neg hi, Numeral.read?_minus_toDigits, Option.map_some]
    simp only [Numeral.value?, habsorb, hsmall.1, hsmall.2, hvalue, Bool.not_true, Bool.false_eq_true,
      if_false, decide_true, Bool.and_self, if_true]

/-! ## Values -/

/-- All numbers in the value are integers of 64 bits, signed or unsigned. -/
inductive IsWhole : Json → Prop where
  | null : IsWhole .null
  | bool (b : Bool) : IsWhole (.bool b)
  | number {i : Int} (low : minInt64 ≤ i) (high : i ≤ maxNat64) : IsWhole (.number (.integer i))
  | text (s : String) : IsWhole (.text s)
  | array {items : List Json} (whole : ∀ item ∈ items, IsWhole item) : IsWhole (.array items)
  | object {fields : List (String × Json)} (whole : ∀ f ∈ fields, IsWhole f.2) :
    IsWhole (.object fields)

theorem rereadItems?_eq {items : List Json} (h : ∀ item ∈ items, item.reread? = some item.toNode) :
    rereadItems? items = some (toNodes items) := by
  induction items with
  | nil => rfl
  | cons item items ih =>
    obtain ⟨hitem, hitems⟩ := List.forall_mem_cons.1 h
    rw [rereadItems?, hitem, ih hitems]
    rfl

theorem rereadFields?_eq {fields : List (String × Json)}
    (h : ∀ f ∈ fields, f.2.reread? = some f.2.toNode) :
    rereadFields? fields = some (toFields fields) := by
  induction fields with
  | nil => rfl
  | cons f fields ih =>
    obtain ⟨hf, hfields⟩ := List.forall_mem_cons.1 h
    rw [rereadFields?, hf, ih hfields]
    rfl

/-- A whole value is read again as its own tree. -/
theorem IsWhole.reread?_eq {j : Json} (h : IsWhole j) : j.reread? = some j.toNode := by
  induction h with
  | null => rfl
  | bool b => rfl
  | number low high => exact reread?_integer low high
  | text s => rfl
  | array whole ih => rw [reread?, rereadItems?_eq ih, toNode, Option.map_some]
  | object whole ih => rw [reread?, rereadFields?_eq ih, toNode, Option.map_some]

theorem IsWhole.parse?_render {j : Json} (h : IsWhole j) :
    Node.parse? (Bytes.ofText j.render) = some j.toNode :=
  (Json.parse?_render j).trans h.reread?_eq

end HostFleet.Json
