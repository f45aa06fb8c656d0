import HostFleet.Address.Basic
import HostFleet.Proofs.Decimal.Digits
import HostFleet.Proofs.Text.Occurrence
import Mathlib.Data.List.Basic
import Mathlib.Data.List.TakeWhile

/-! # Literals of addresses

The literal that is written for an IP address is read back as this address, also from the text of an endpoint
that listens there.

* `Ip.octet_toString`, `Ip.group_hexGroup`: one number of a literal, whatever stands behind it.
* `Ip.longestRun_spec`: the run of groups that a literal leaves out holds zeros only.
* `Ip.read?_chars`: the literal of an address.
* `Address.ip?_endpointText`: the address of an endpoint behind any scheme, with any port.
-/

set_option autoImplicit false

namespace HostFleet

namespace Ip

open Json.Numeral (isDigit natOf)
open Decimal (head?_toDigits isDigit_of_mem_toDigits natOf_toDigits)

variable {s rest : List Char}

/-! ## Version 4 -/

theorem toList_toString (a : UInt8) : (toString a).toList = Nat.toDigits 10 a.toNat := by
  have hrepr : toString a = Nat.repr a.toNat := rfl
  rw [hrepr, Nat.repr_eq_ofList_toDigits, String.toList_ofList]

theorem octet_toString (a : UInt8) (hrest : rest.takeWhile isDigit = []) :
    octet ((toString a).toList ++ rest) = some (a, rest) := by
  have hlt : a.toNat < 256 := a.toNat_lt
  have htaken : (Nat.toDigits 10 a.toNat ++ rest).takeWhile isDigit = Nat.toDigits 10 a.toNat := by
    rw [List.takeWhile_append_of_pos fun c hc => isDigit_of_mem_toDigits hc, hrest, List.append_nil]
  have hlength : (Nat.toDigits 10 a.toNat).length ≤ 3 :=
    (Nat.length_toDigits_le_iff (by decide) (by decide)).2 (by omega)
  have hlead : ¬(1 < (Nat.toDigits 10 a.toNat).length ∧ (Nat.toDigits 10 a.toNat).head? = some '0') := by
    rintro ⟨hlong, hzero⟩
    rcases Nat.eq_zero_or_pos a.toNat with h | h
    · rw [h] at hlong
      exact absurd hlong (by decide)
    · exact head?_toDigits h hzero
  rw [toList_toString]
  unfold octet
  simp only [htaken, natOf_toDigits, List.drop_left]
  rw [if_neg]
  · rw [UInt8.ofNat_toNat]
  · simp only [Bool.or_eq_true, Bool.and_eq_true, List.isEmpty_iff, decide_eq_true_eq, beq_iff_eq]
    rintro (((hempty | hlong) | hzero) | hbig)
    · exact Nat.toDigits_ne_nil hempty
    · omega
    · exact hlead hzero
    · omega

theorem mark_cons (c : Char) (s : List Char) : mark c (c :: s) = some s := by
  simp [mark]

theorem readV4_v4Chars_append (a b c d : UInt8) (hrest : rest.takeWhile isDigit = []) :
    readV4 (v4Chars a b c d ++ rest) = some ((a, b, c, d), rest) := by
  have hdot : ∀ s : List Char, ('.' :: s).takeWhile isDigit = [] := fun s =>
    List.takeWhile_cons_of_neg (by decide)
  unfold readV4 v4Chars
  simp [octet_toString _ (hdot _), octet_toString _ hrest, mark_cons]

theorem readV4_v4Chars (a b c d : UInt8) : readV4 (v4Chars a b c d) = some ((a, b, c, d), []) := by
  have hread : readV4 (v4Chars a b c d ++ []) = some ((a, b, c, d), []) :=
    readV4_v4Chars_append a b c d rfl
  rwa [List.append_nil] at hread

/-- A version 4 address is not read where no point stands. -/
theorem readV4_eq_none (h : '.' ∉ s) : readV4 s = none := by
  unfold readV4
  cases hoctet : octet s with
  | none => rfl
  | some read =>
    obtain ⟨a, s'⟩ := read
    have hrest : ∃ n, s' = s.drop n := by
      unfold octet at hoctet
      extract_lets ds value at hoctet
      split at hoctet
      · cases hoctet
      · injection hoctet with hoctet
        exact ⟨_, (congrArg Prod.snd hoctet).symm⟩
    obtain ⟨n, rfl⟩ := hrest
    have hmark : mark '.' (s.drop n) = none := by
      cases hdrop : s.drop n with
      | nil => rfl
      | cons d s' =>
        have hmem : d ∈ s := List.mem_of_mem_drop (hdrop ▸ List.mem_cons_self)
        have hne : '.' ≠ d := fun heq => h (heq ▸ hmem)
        simp [mark, hne]
    simp [hmark]

/-! ## Groups -/

theorem digitOfHex?_digitChar {n : Nat} (h : n < 16) : Bytes.digitOfHex? n.digitChar = some n := by
  revert n
  decide

theorem isHexDigit_of_isDigit {c : Char} (h : isDigit c = true) : isHexDigit c = true := by
  have hrange : '0' ≤ c ∧ c ≤ '9' := by
    unfold isDigit at h
    rw [Bool.and_eq_true, decide_eq_true_eq, decide_eq_true_eq] at h
    exact h
  unfold isHexDigit Bytes.digitOfHex?
  rw [if_pos hrange]
  rfl

theorem isHexDigit_of_mem_toDigits {n : Nat} {c : Char} (h : c ∈ Nat.toDigits 16 n) :
    isHexDigit c = true := by
  have hdigit : ∀ m < 16, isHexDigit (Nat.digitChar m) = true := by decide
  induction n using Nat.strongRecOn with
  | ind n ih =>
    by_cases hn : n < 16
    · rw [Nat.toDigits_of_lt_base hn, List.mem_singleton] at h
      exact h ▸ hdigit n hn
    · rw [Nat.toDigits_of_base_le (by decide) (by omega), List.mem_append, List.mem_singleton] at h
      rcases h with h | rfl
      · exact ih (n / 16) (by omega) h
      · exact hdigit (n % 16) (Nat.mod_lt n (by decide))

theorem foldl_toDigits (n : Nat) :
    (Nat.toDigits 16 n).foldl (fun m c => 16 * m + (Bytes.digitOfHex? c).getD 0) 0 = n := by
  induction n using Nat.strongRecOn with
  | ind n ih =>
    by_cases hn : n < 16
    · rw [Nat.toDigits_of_lt_base hn]
      simp [digitOfHex?_digitChar hn]
    · rw [Nat.toDigits_of_base_le (by decide) (by omega), List.foldl_append, ih (n / 16) (by omega)]
      simp only [List.foldl_cons, List.foldl_nil, digitOfHex?_digitChar (Nat.mod_lt n (by decide)),
        Option.getD_some]
      omega

theorem group_hexGroup (g : UInt16) (hrest : rest.takeWhile isHexDigit = []) :
    group (hexGroup g ++ rest) = some (g, rest) := by
  have hlt : g.toNat < 16 ^ 4 := g.toNat_lt
  have htaken : (Nat.toDigits 16 g.toNat ++ rest).takeWhile isHexDigit = Nat.toDigits 16 g.toNat := by
    rw [List.takeWhile_append_of_pos fun c hc => isHexDigit_of_mem_toDigits hc, hrest, List.append_nil]
  have hlength : (Nat.toDigits 16 g.toNat).length ≤ 4 :=
    (Nat.length_toDigits_le_iff (by decide) (by decide)).2 hlt
  unfold group hexGroup
  simp only [htaken, foldl_toDigits, List.drop_left]
  rw [if_neg]
  · rw [UInt16.ofNat_toNat]
  · simp only [Bool.or_eq_true, List.isEmpty_iff, decide_eq_true_eq]
    rintro (hempty | hlong)
    · exact Nat.toDigits_ne_nil hempty
    · omega

/-- Groups behind one that stands in front, each with its colon. -/
def behind (gs : List UInt16) : List Char := gs.flatMap fun g => ':' :: hexGroup g

theorem joined_cons (g : UInt16) (gs : List UInt16) : joined (g :: gs) = hexGroup g ++ behind gs := by
  unfold joined behind
  induction gs generalizing g with
  | nil => simp [List.intercalate]
  | cons g' gs ih =>
    have hrest := ih g'
    simp only [List.map_cons, List.flatMap_cons] at hrest ⊢
    rw [List.intercalate_cons_cons, hrest]
    simp

theorem not_mem_hexGroup {c : Char} (hc : isHexDigit c = false) (g : UInt16) : c ∉ hexGroup g := by
  intro hmem
  have hdigit := isHexDigit_of_mem_toDigits hmem
  rw [hc] at hdigit
  cases hdigit

theorem not_mem_behind {c : Char} (hc : isHexDigit c = false) (hcolon : c ≠ ':') (gs : List UInt16) :
    c ∉ behind gs := by
  intro hmem
  obtain ⟨g, -, hg⟩ := List.mem_flatMap.1 hmem
  rcases List.mem_cons.1 hg with hg | hg
  · exact hcolon hg
  · exact not_mem_hexGroup hc g hg

theorem not_mem_joined {c : Char} (hc : isHexDigit c = false) (hcolon : c ≠ ':') (gs : List UInt16) :
    c ∉ joined gs := by
  cases gs with
  | nil => exact List.not_mem_nil
  | cons g gs =>
    rw [joined_cons, List.mem_append, not_or]
    exact ⟨not_mem_hexGroup hc g, not_mem_behind hc hcolon gs⟩

/-- No group is read on: the text is at its end or at a gap, and no version 4 address follows. -/
def EndsGroups (s : List Char) : Prop := '.' ∉ s ∧ (s = [] ∨ ∃ t, s = ':' :: ':' :: t)

theorem EndsGroups.takeWhile (h : EndsGroups rest) : rest.takeWhile isHexDigit = [] := by
  rcases h.2 with rfl | ⟨t, rfl⟩
  · rfl
  · exact List.takeWhile_cons_of_neg (by decide)

theorem EndsGroups.readGroups (h : EndsGroups rest) (first : Bool) (room : Nat) :
    readGroups first room rest = ([], false, rest) := by
  cases room with
  | zero => rfl
  | succ room =>
    have hv4 : separated first readV4 rest = none := by
      rcases h.2 with rfl | ⟨t, rfl⟩
      · cases first <;> rfl
      · have hnone : readV4 (':' :: t) = none :=
          readV4_eq_none fun hmem => h.1 (List.mem_cons_of_mem ':' hmem)
        cases first
        · simp [separated, mark_cons, hnone]
        · simp [separated, readV4_eq_none h.1]
    have hgroup : separated first group rest = none := by
      rcases h.2 with rfl | ⟨t, rfl⟩ <;> cases first <;> rfl
    unfold Ip.readGroups
    rw [hv4, hgroup, ite_self]

/-- Behind a group stand the next one, with its colon, or the end of the groups. -/
theorem takeWhile_behind (h : EndsGroups rest) (gs : List UInt16) :
    (behind gs ++ rest).takeWhile isHexDigit = [] := by
  cases gs with
  | nil => exact h.takeWhile
  | cons g gs => exact List.takeWhile_cons_of_neg (by decide)

theorem not_mem_behind_append (h : EndsGroups rest) (gs : List UInt16) : '.' ∉ behind gs ++ rest := by
  rw [List.mem_append, not_or]
  exact ⟨not_mem_behind (by decide) (by decide) gs, h.1⟩

theorem readGroups_behind (h : EndsGroups rest) {gs : List UInt16} {room : Nat}
    (hroom : gs.length ≤ room) : readGroups false room (behind gs ++ rest) = (gs, false, rest) := by
  induction gs generalizing room with
  | nil => exact h.readGroups false room
  | cons g gs ih =>
    obtain ⟨room, rfl⟩ : ∃ n, room = n + 1 := ⟨room - 1, by simp at hroom; omega⟩
    have hstart : behind (g :: gs) ++ rest = ':' :: (hexGroup g ++ (behind gs ++ rest)) := by
      simp [behind]
    have hdot := not_mem_behind_append h (g :: gs)
    rw [hstart] at hdot ⊢
    have hv4 : separated false readV4 (':' :: (hexGroup g ++ (behind gs ++ rest))) = none := by
      simp [separated, mark_cons, readV4_eq_none fun hmem => hdot (List.mem_cons_of_mem ':' hmem)]
    have hgroup : separated false group (':' :: (hexGroup g ++ (behind gs ++ rest))) =
        some (g, behind gs ++ rest) := by
      simp [separated, mark_cons, group_hexGroup g (takeWhile_behind h gs)]
    unfold Ip.readGroups
    rw [hv4, hgroup, ite_self]
    simp only [ih (Nat.le_of_succ_le_succ hroom)]

theorem readGroups_joined (h : EndsGroups rest) {gs : List UInt16} {room : Nat}
    (hroom : gs.length ≤ room) : readGroups true room (joined gs ++ rest) = (gs, false, rest) := by
  cases gs with
  | nil => exact h.readGroups true room
  | cons g gs =>
    obtain ⟨room, rfl⟩ : ∃ n, room = n + 1 := ⟨room - 1, by simp at hroom; omega⟩
    have hdot : '.' ∉ hexGroup g ++ (behind gs ++ rest) := by
      rw [List.mem_append, not_or]
      exact ⟨not_mem_hexGroup (by decide) g, not_mem_behind_append h gs⟩
    have hv4 : separated true readV4 (hexGroup g ++ (behind gs ++ rest)) = none := readV4_eq_none hdot
    have hgroup : separated true group (hexGroup g ++ (behind gs ++ rest)) =
        some (g, behind gs ++ rest) := group_hexGroup g (takeWhile_behind h gs)
    rw [joined_cons, List.append_assoc]
    unfold Ip.readGroups
    rw [hv4, hgroup, ite_self]
    simp only [readGroups_behind h (Nat.le_of_succ_le_succ hroom)]

/-! ## Version 6 -/

theorem eq_replicate_zeroRun (gs : List UInt16) :
    ∃ more, gs = List.replicate (zeroRun gs) 0 ++ more := by
  refine ⟨gs.dropWhile (· == 0), ?_⟩
  have hzero : ∀ g ∈ gs.takeWhile (· == 0), g = 0 := by
    intro g hg
    have hholds := List.mem_takeWhile_imp hg
    exact beq_iff_eq.1 hholds
  have hzeros : gs.takeWhile (· == 0) = List.replicate (zeroRun gs) 0 :=
    List.eq_replicate_of_mem hzero
  rw [← hzeros, List.takeWhile_append_dropWhile]

/-- Where a run is found stand as many zero groups as it is long. -/
theorem longestRun_spec {start at' length : Nat} {gs : List UInt16}
    (h : longestRun start gs = (at', length)) (hpos : 0 < length) :
    ∃ before after, gs = before ++ (List.replicate length 0 ++ after) ∧ at' = start + before.length := by
  induction gs generalizing start with
  | nil =>
    have hlength := congrArg Prod.snd h
    exact absurd hlength (Nat.ne_of_lt hpos)
  | cons g gs ih =>
    cases hrest : longestRun (start + 1) gs with
    | mk further best =>
      unfold longestRun at h
      simp only [hrest] at h
      split at h
      · obtain ⟨more, hmore⟩ := eq_replicate_zeroRun (g :: gs)
        obtain ⟨rfl, rfl⟩ := Prod.mk.inj h
        exact ⟨[], more, hmore, rfl⟩
      · obtain ⟨rfl, rfl⟩ := Prod.mk.inj h
        obtain ⟨before, after, hgs, hat⟩ := ih hrest
        refine ⟨g :: before, after, congrArg (List.cons g) hgs, ?_⟩
        rw [hat, List.length_cons]
        omega

theorem fill_eq {head tail : List UInt16} {groups : Vector UInt16 8}
    (h : head ++ List.replicate (8 - head.length - tail.length) 0 ++ tail = groups.toList) :
    fill head tail = some groups := by
  unfold fill
  simp only [h]
  rw [dif_pos groups.length_toList]
  congr 1

/-- All eight groups. -/
theorem readV6_joined (groups : Vector UInt16 8) :
    readV6 (joined groups.toList) = some (groups, []) := by
  have hlength : groups.toList.length = 8 := groups.length_toList
  have hends : EndsGroups [] := ⟨List.not_mem_nil, .inl rfl⟩
  have hread := readGroups_joined hends (Nat.le_of_eq hlength)
  rw [List.append_nil] at hread
  have hfill : fill groups.toList [] = some groups := fill_eq (by simp)
  unfold readV6
  simp [hread, hfill]

/-- Groups with a gap for the zeros between them. -/
theorem readV6_gap {before after : List UInt16} {length : Nat} {groups : Vector UInt16 8}
    (hgroups : groups.toList = before ++ (List.replicate length 0 ++ after)) (hlong : 1 < length) :
    readV6 (joined before ++ ':' :: ':' :: joined after) = some (groups, []) := by
  have hlength : before.length + (length + after.length) = 8 := by
    simpa using (congrArg List.length hgroups).symm
  have hgap : EndsGroups (':' :: ':' :: joined after) := by
    refine ⟨?_, .inr ⟨_, rfl⟩⟩
    simpa using not_mem_joined (c := '.') (by decide) (by decide) after
  have hends : EndsGroups [] := ⟨List.not_mem_nil, .inl rfl⟩
  have hhead : readGroups true 8 (joined before ++ ':' :: ':' :: joined after) =
      (before, false, ':' :: ':' :: joined after) := readGroups_joined hgap (by omega)
  have htail : readGroups true (7 - before.length) (joined after ++ []) = (after, false, []) :=
    readGroups_joined hends (by omega)
  rw [List.append_nil] at htail
  have hfill : fill before after = some groups := by
    refine fill_eq ?_
    rw [hgroups, show 8 - before.length - after.length = length by omega, List.append_assoc]
  have hshort : before.length ≠ 8 := by omega
  unfold readV6
  simp [hhead, htail, hfill, hshort, mark_cons]

/-- A version 4 address as the last two of eight groups. -/
theorem readV6_mapped (a b c d : UInt8) {groups : Vector UInt16 8}
    (hgroups : groups.toList = [0, 0, 0, 0, 0, 0xFFFF, a.toUInt16 * 256 + b.toUInt16,
      c.toUInt16 * 256 + d.toUInt16]) :
    readV6 ([':', ':', 'f', 'f', 'f', 'f', ':'] ++ v4Chars a b c d) = some (groups, []) := by
  have hv4 := readV4_v4Chars a b c d
  have hhead : readGroups true 8 ([':', ':', 'f', 'f', 'f', 'f', ':'] ++ v4Chars a b c d) =
      ([], false, [':', ':', 'f', 'f', 'f', 'f', ':'] ++ v4Chars a b c d) := by
    unfold readGroups
    rfl
  have hlast : readGroups false 6 (':' :: v4Chars a b c d) =
      ([a.toUInt16 * 256 + b.toUInt16, c.toUInt16 * 256 + d.toUInt16], true, []) := by
    unfold readGroups
    simp [separated, mark_cons, hv4]
  have hfirst : separated true group ('f' :: 'f' :: 'f' :: 'f' :: ':' :: v4Chars a b c d) =
      some (0xFFFF, ':' :: v4Chars a b c d) := by
    have hend : (':' :: v4Chars a b c d).takeWhile isHexDigit = [] :=
      List.takeWhile_cons_of_neg (by decide)
    exact group_hexGroup 0xFFFF hend
  have hletters : separated true readV4 ('f' :: 'f' :: 'f' :: 'f' :: ':' :: v4Chars a b c d) = none := rfl
  have htail : readGroups true 7 ('f' :: 'f' :: 'f' :: 'f' :: ':' :: v4Chars a b c d) =
      ([0xFFFF, a.toUInt16 * 256 + b.toUInt16, c.toUInt16 * 256 + d.toUInt16], true, []) := by
    unfold readGroups
    rw [hletters, hfirst, ite_self]
    simp only [hlast]
  have hfill : fill [] [0xFFFF, a.toUInt16 * 256 + b.toUInt16, c.toUInt16 * 256 + d.toUInt16] =
      some groups := fill_eq hgroups.symm
  unfold readV6
  rw [hhead]
  simp [mark_cons, htail, hfill]

theorem toUInt16_div_add_mod (g : UInt16) :
    (g / 256).toUInt8.toUInt16 * 256 + (g % 256).toUInt8.toUInt16 = g := by
  have hlt : g.toNat < 65536 := g.toNat_lt
  refine UInt16.toNat_inj.1 ?_
  simp only [UInt16.toNat_add, UInt16.toNat_mul, UInt8.toNat_toUInt16, UInt16.toNat_toUInt8,
    UInt16.toNat_div, UInt16.toNat_mod, UInt16.reduceToNat]
  omega

/-- The forms in which the groups of an address are written. -/
inductive WritesV6 (groups : Vector UInt16 8) : List Char → Prop where
  | mapped {a b c d : UInt8}
      (h : groups.toList = [0, 0, 0, 0, 0, 0xFFFF, a.toUInt16 * 256 + b.toUInt16,
        c.toUInt16 * 256 + d.toUInt16]) :
      WritesV6 groups ([':', ':', 'f', 'f', 'f', 'f', ':'] ++ v4Chars a b c d)
  | gap {before after : List UInt16} {length : Nat}
      (h : groups.toList = before ++ (List.replicate length 0 ++ after)) (hlong : 1 < length) :
      WritesV6 groups (joined before ++ ':' :: ':' :: joined after)
  | whole : WritesV6 groups (joined groups.toList)

theorem writesV6_v6Chars (groups : Vector UInt16 8) : WritesV6 groups (v6Chars groups) := by
  unfold v6Chars
  extract_lets gs octets
  split
  · next hmapped =>
    have hfirst : gs.take 6 = [0, 0, 0, 0, 0, 0xFFFF] := beq_iff_eq.1 hmapped
    obtain ⟨g, g', hlast⟩ : ∃ g g', gs.drop 6 = [g, g'] := List.length_eq_two.1 (by simp [gs])
    have hgs : gs = [0, 0, 0, 0, 0, 0xFFFF, g, g'] := by
      rw [← List.take_append_drop 6 gs, hfirst, hlast]
      rfl
    have hoctets : octets =
        [(g / 256).toUInt8, (g % 256).toUInt8, (g' / 256).toUInt8, (g' % 256).toUInt8] := by
      simp [octets, hlast]
    rw [hoctets]
    refine .mapped ?_
    rw [toUInt16_div_add_mod, toUInt16_div_add_mod]
    exact hgs
  · cases hrun : longestRun 0 gs with
    | mk start length =>
      simp only
      split
      · next hlong =>
        obtain ⟨before, after, hgs, hstart⟩ := longestRun_spec hrun (by omega)
        have htake : gs.take start = before := by
          rw [hgs, hstart, Nat.zero_add, List.take_left]
        have hdrop : gs.drop (start + length) = after := by
          rw [hgs, hstart, Nat.zero_add, ← List.append_assoc, List.drop_left']
          simp
        rw [htake, hdrop]
        exact .gap hgs hlong
      · exact .whole

theorem WritesV6.readV6 {groups : Vector UInt16 8} (h : WritesV6 groups s) :
    readV6 s = some (groups, []) := by
  cases h with
  | mapped h => exact readV6_mapped _ _ _ _ h
  | gap h hlong => exact readV6_gap h hlong
  | whole => exact readV6_joined groups

/-- It is not read as a version 4 address, not even at its start. -/
theorem WritesV6.readV4 {groups : Vector UInt16 8} (h : WritesV6 groups s) : readV4 s = none := by
  have hjoined : ∀ gs, '.' ∉ joined gs := not_mem_joined (by decide) (by decide)
  cases h with
  | mapped h => rfl
  | gap h hlong => exact readV4_eq_none (by simp [hjoined])
  | whole => exact readV4_eq_none (hjoined _)

/-- The literal of an address is read as this address. -/
theorem read?_chars (ip : Ip) : read? ip.chars = some ip := by
  unfold read?
  cases ip with
  | v4 a b c d =>
    unfold chars
    simp only [readV4_v4Chars]
  | v6 groups =>
    have hliteral := writesV6_v6Chars groups
    unfold chars
    simp only [hliteral.readV4, hliteral.readV6]

/-! ## Characters -/

theorem not_mem_v4Chars {x : Char} (hx : isHexDigit x = false) (hdot : x ≠ '.') (a b c d : UInt8) :
    x ∉ v4Chars a b c d := by
  have hoctet : ∀ a : UInt8, x ∉ (toString a).toList := by
    intro a hmem
    rw [toList_toString] at hmem
    have hdigit := isDigit_of_mem_toDigits hmem
    rw [isHexDigit_of_isDigit hdigit] at hx
    cases hx
  unfold v4Chars
  simp [hoctet, hdot]

theorem WritesV6.not_mem {groups : Vector UInt16 8} (h : WritesV6 groups s) {x : Char}
    (hx : isHexDigit x = false) (hdot : x ≠ '.') (hcolon : x ≠ ':') : x ∉ s := by
  have hjoined : ∀ gs, x ∉ joined gs := not_mem_joined hx hcolon
  cases h with
  | mapped h =>
    have hf : x ≠ 'f' := by
      rintro rfl
      exact absurd hx (by decide)
    simp [hcolon, hf, not_mem_v4Chars hx hdot]
  | gap h hlong => simp [hcolon, hjoined]
  | whole => exact hjoined _

/-- A literal has only hexadecimal digits, points and colons. -/
theorem not_mem_chars {x : Char} (hx : isHexDigit x = false) (hdot : x ≠ '.') (hcolon : x ≠ ':')
    (ip : Ip) : x ∉ ip.chars := by
  cases ip with
  | v4 a b c d => exact not_mem_v4Chars hx hdot a b c d
  | v6 groups => exact (writesV6_v6Chars groups).not_mem hx hdot hcolon

end Ip

namespace Address

/-! ## Endpoints -/

/-- The literal of an address where a port follows. -/
def hostChars (ip : Ip) : List Char :=
  match ip with
  | .v4 .. => ip.chars
  | .v6 _ => '[' :: (ip.chars ++ [']'])

/-- Address and port of a socket. -/
def socketText (ip : Ip) (port : Nat) : String := String.ofList (hostChars ip) ++ ":" ++ toString port

/-- Where one reaches the socket under a scheme. -/
def endpointText (scheme : String) (ip : Ip) (port : Nat) : String :=
  scheme ++ "://" ++ socketText ip port

theorem unbracket_hostChars (ip : Ip) : unbracket (hostChars ip) = ip.chars := by
  have hopening : '[' ∉ ip.chars := Ip.not_mem_chars (by decide) (by decide) (by decide) ip
  have hclosing : ']' ∉ ip.chars := Ip.not_mem_chars (by decide) (by decide) (by decide) ip
  have hdrop : ∀ {x : Char} {s : List Char}, x ∉ s → s.dropWhile (· == x) = s := by
    intro x s hx
    refine List.dropWhile_eq_self_iff.2 fun hpos heq => hx ?_
    rw [← beq_iff_eq.1 heq]
    exact List.getElem_mem hpos
  have hstart : (hostChars ip).dropWhile (· == '[') = ip.chars ∨
      (hostChars ip).dropWhile (· == '[') = ip.chars ++ [']'] := by
    cases ip with
    | v4 a b c d => exact .inl (hdrop hopening)
    | v6 groups =>
      refine .inr ?_
      unfold hostChars
      rw [List.dropWhile_cons_of_pos (by decide), hdrop]
      simpa using hopening
  have hreverse : ']' ∉ ip.chars.reverse := mt List.mem_reverse.1 hclosing
  unfold unbracket
  rcases hstart with h | h
  · rw [h, hdrop hreverse, List.reverse_reverse]
  · rw [h, List.reverse_append, List.reverse_singleton, List.singleton_append,
      List.dropWhile_cons_of_pos (by decide), hdrop hreverse, List.reverse_reverse]

/-- The mark behind a scheme without one is the first. -/
theorem cutAt_schemeMark {scheme : List Char} (h : ¬schemeMark <:+: scheme) (rest : List Char) :
    Text.cutAt schemeMark (scheme ++ (schemeMark ++ rest)) = some (scheme, rest) := by
  induction scheme with
  | nil => exact Text.cutAt_append_self schemeMark rest
  | cons c scheme ih =>
    -- a mark that begins in the scheme would end in it: the mark's first character is none of its others
    have hnot : ¬schemeMark <+: c :: (scheme ++ (schemeMark ++ rest)) := by
      intro hprefix
      obtain ⟨rfl, hslashes⟩ := List.cons_prefix_cons.1 hprefix
      match scheme, h, hslashes with
      | [], _, hslashes => exact absurd (List.cons_prefix_cons.1 hslashes).1 (by decide)
      | [d], _, hslashes =>
        have hsecond := (List.cons_prefix_cons.1 hslashes).2
        exact absurd (List.cons_prefix_cons.1 hsecond).1 (by decide)
      | d :: d' :: more, h, hslashes =>
        obtain ⟨rfl, hsecond⟩ := List.cons_prefix_cons.1 hslashes
        obtain ⟨rfl, -⟩ := List.cons_prefix_cons.1 hsecond
        exact h (List.prefix_append schemeMark more).isInfix
    have hrest := ih fun hinfix => h (List.infix_cons hinfix)
    rw [List.cons_append, Text.cutAt_cons_of_not_prefix hnot, hrest]
    rfl

theorem ip?_endpointText {scheme : String} (h : ¬schemeMark <:+: scheme.toList) (ip : Ip) (port : Nat) :
    ip? (endpointText scheme ip port) = some ip := by
  have hport : ':' ∉ (toString port).toList := by
    have hrepr : toString port = Nat.repr port := rfl
    rw [hrepr, Nat.repr_eq_ofList_toDigits, String.toList_ofList]
    intro hmem
    exact absurd (Decimal.isDigit_of_mem_toDigits hmem) (by decide)
  have htext : (endpointText scheme ip port).toList =
      scheme.toList ++ (schemeMark ++ (hostChars ip ++ ':' :: (toString port).toList)) := by
    unfold endpointText socketText
    simp only [String.toList_append, String.toList_ofList, List.append_assoc]
    rfl
  have hcut : Text.cutLast ':' (hostChars ip ++ ':' :: (toString port).toList) =
      some (hostChars ip, (toString port).toList) := Text.cutLast_eq_some_iff.2 ⟨rfl, hport⟩
  unfold ip? authorityList
  rw [htext, cutAt_schemeMark h]
  simp only [hcut, Option.bind_some, unbracket_hostChars, Ip.read?_chars]

end Address

end HostFleet
