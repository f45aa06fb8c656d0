import HostFleet.Proofs.Address.Literal
import HostFleet.Proofs.Http.Authority
import HostFleet.Proofs.Json.Kept

/-! # Hosts have no marks

Some characters end the host of a URL, stand behind a user, or are passed over. However a text is decoded and
mapped where a host is read, they stay what they are, and a host with one of them is refused.

* `Punycode.mem_encode`, `Domain.mem_of_ascii?`: ASCII characters stay when a name is mapped.
* `Ip.Reads`: what is read of a literal is hexadecimal digits, colons and dots.
* `marks`; `not_mem_of_host?`: no host is read of a text with a mark.
* `isAuthority_of_placeIn?`: a text that names a place is no more than a host and a port.
-/

set_option autoImplicit false

namespace HostFleet

open Text.Punycode (isAscii)

/-! ## Names -/

namespace Text.Punycode

theorem Writing.prefix_pass (n : Nat) (w : Writing) (c : Char) : w.done <+: (w.pass n c).done := by
  unfold Writing.pass
  split
  · exact List.prefix_rfl
  · split
    · exact List.prefix_append ..
    · exact List.prefix_rfl

theorem Writing.prefix_passes (n : Nat) (w : Writing) (s : List Char) :
    w.done <+: (s.foldl (Writing.pass n) w).done := by
  induction s generalizing w with
  | nil => exact List.prefix_rfl
  | cons c s ih => exact (w.prefix_pass n c).trans (ih (w.pass n c))

theorem Writing.prefix_passAll (s : List Char) (w : Writing) (n : Nat) (codes : List Nat) :
    w.done <+: (passAll s w n codes).done := by
  induction codes generalizing w n with
  | nil => exact List.prefix_rfl
  | cons m codes ih =>
    have hpasses := Writing.prefix_passes m { w with number := w.number + (m - n) * (w.count + 1) } s
    unfold passAll
    generalize s.foldl (Writing.pass m) _ = passed at hpasses
    exact hpasses.trans (ih { passed with number := passed.number + 1 } (m + 1))

theorem mem_encode {c : Char} {s : List Char} (hc : isAscii c = true) (h : c ∈ s) : c ∈ encode s := by
  unfold encode
  extract_lets ascii others front
  have hascii : c ∈ ascii := List.mem_filter.2 ⟨h, hc⟩
  have hfront : c ∈ front := by
    have hne : ascii.isEmpty = false := List.isEmpty_eq_false_iff.2 (List.ne_nil_of_mem hascii)
    simp only [front, hne, Bool.false_eq_true, if_false]
    exact List.mem_append_left _ hascii
  exact (Writing.prefix_passAll s _ 0x80 others).subset hfront

end Text.Punycode

namespace Domain

variable {c : Char} {s label name : List Char}

theorem mem_of_label? (hc : isAscii c = true) (h : c ∈ s) (hlabel : label? s = some label) :
    c ∈ label := by
  unfold label? at hlabel
  split at hlabel
  · split at hlabel
    · cases hlabel
      exact h
    · cases hlabel
  · split at hlabel
    · cases hlabel
      exact h
    · split at hlabel
      · cases hlabel
        exact List.mem_append_right _ (Text.Punycode.mem_encode hc h)
      · cases hlabel

/-- ASCII characters other than capital letters stay. -/
theorem mem_of_ascii? (hc : isAscii c = true) (hlower : c.toLower = c) (hdot : c ≠ '.') (h : c ∈ s)
    (hname : ascii? s = some name) : c ∈ name := by
  obtain ⟨plain, hplain, hname⟩ := Option.bind_eq_some_iff.1 hname
  obtain ⟨labels, hlabels, hname⟩ := Option.bind_eq_some_iff.1 hname
  injection hname with hname
  obtain ⟨form, hform, hc'⟩ := Json.exists_mem_of_mapM hplain h
  unfold plain? at hc'
  rw [if_pos hc, hlower] at hc'
  injection hc' with hc'
  have hflat : c ∈ plain.flatten := List.mem_flatten.2 ⟨form, hform, hc' ▸ List.mem_singleton_self c⟩
  obtain ⟨part, hpart, hmem⟩ := Text.exists_mem_fields hflat hdot
  obtain ⟨label, hlabel, heq⟩ := Json.exists_mem_of_mapM hlabels hpart
  rw [← hname, Text.mem_intercalate_iff]
  exact .inl ⟨label, hlabel, mem_of_label? hc hmem heq⟩

end Domain

/-! ## Literals -/

namespace Ip

open Json.Numeral (isDigit)

def isLiteralChar (c : Char) : Bool := isHexDigit c || c == ':' || c == '.'

/-- The rest is what stands behind characters of literals. -/
def Reads (s rest : List Char) : Prop :=
  ∃ front, s = front ++ rest ∧ ∀ c ∈ front, isLiteralChar c = true

variable {α : Type} {s t rest : List Char}

theorem Reads.refl (s : List Char) : Reads s s := ⟨[], rfl, nofun⟩

theorem Reads.trans (h : Reads s t) (h' : Reads t rest) : Reads s rest := by
  obtain ⟨front, rfl, hfront⟩ := h
  obtain ⟨more, rfl, hmore⟩ := h'
  refine ⟨front ++ more, (List.append_assoc ..).symm, fun c hc => ?_⟩
  exact (List.mem_append.1 hc).elim (hfront c) (hmore c)

theorem reads_drop {p : Char → Bool} (hp : ∀ c, p c = true → isLiteralChar c = true) (s : List Char) :
    Reads s (s.drop (s.takeWhile p).length) :=
  ⟨s.takeWhile p, (List.prefix_iff_eq_append.1 (List.takeWhile_prefix p)).symm,
    fun c hc => hp c (List.mem_takeWhile_imp hc)⟩

theorem reads_octet {n : UInt8} (h : octet s = some (n, rest)) : Reads s rest := by
  unfold octet at h
  extract_lets ds value at h
  split at h
  · cases h
  · cases h
    exact reads_drop (fun c hc => by simp [isLiteralChar, isHexDigit_of_isDigit hc]) s

theorem reads_group {g : UInt16} (h : group s = some (g, rest)) : Reads s rest := by
  unfold group at h
  extract_lets ds at h
  split at h
  · cases h
  · cases h
    exact reads_drop (fun c hc => by simp [isLiteralChar, hc]) s

theorem reads_mark {c : Char} (hc : isLiteralChar c = true) (h : mark c s = some rest) :
    Reads s rest := by
  cases s with
  | nil => cases h
  | cons d s =>
    simp only [mark, Option.ite_none_right_eq_some, beq_iff_eq, Option.some.injEq] at h
    obtain ⟨rfl, rfl⟩ := h
    refine ⟨[c], rfl, fun x hx => ?_⟩
    rw [List.mem_singleton.1 hx]
    exact hc

section Parts
variable {read : List Char → Option (α × List Char)}
  (hread : ∀ {s a rest}, read s = some (a, rest) → Reads s rest)
include hread

theorem reads_behind {c : Char} (hc : isLiteralChar c = true) {a : α}
    (h : (mark c s >>= read) = some (a, rest)) : Reads s rest := by
  obtain ⟨t, ht, h⟩ := Option.bind_eq_some_iff.1 h
  exact (reads_mark hc ht).trans (hread h)

theorem reads_separated {first : Bool} {a : α} (h : separated first read s = some (a, rest)) :
    Reads s rest := by
  unfold separated at h
  split at h
  · exact hread h
  · exact reads_behind hread (by decide) h

end Parts

theorem reads_readV4 {octets : UInt8 × UInt8 × UInt8 × UInt8} (h : readV4 s = some (octets, rest)) :
    Reads s rest := by
  have hdot : isLiteralChar '.' = true := by decide
  obtain ⟨⟨a, s₁⟩, ha, h⟩ := Option.bind_eq_some_iff.1 h
  obtain ⟨⟨b, s₂⟩, hb, h⟩ := Option.bind_eq_some_iff.1 h
  obtain ⟨⟨c, s₃⟩, hc, h⟩ := Option.bind_eq_some_iff.1 h
  obtain ⟨⟨d, s₄⟩, hd, h⟩ := Option.bind_eq_some_iff.1 h
  cases h
  exact (reads_octet ha).trans ((reads_behind reads_octet hdot hb).trans
    ((reads_behind reads_octet hdot hc).trans (reads_behind reads_octet hdot hd)))

theorem reads_readGroups (first : Bool) (room : Nat) (s : List Char) :
    Reads s (readGroups first room s).2.2 := by
  induction room generalizing first s with
  | zero => exact .refl s
  | succ room ih =>
    unfold readGroups
    split
    · next hmapped =>
      split at hmapped
      · exact reads_separated reads_readV4 hmapped
      · cases hmapped
    · split
      · next hgroup => exact (reads_separated reads_group hgroup).trans (ih false _)
      · exact .refl s

theorem reads_readV6 {groups : Vector UInt16 8} (h : readV6 s = some (groups, rest)) : Reads s rest := by
  have hcolon : isLiteralChar ':' = true := by decide
  have hhead := reads_readGroups true 8 s
  unfold readV6 at h
  generalize readGroups true 8 s = headed at h hhead
  obtain ⟨head, mapped, t⟩ := headed
  simp only at h
  split at h
  · obtain ⟨filled, -, h⟩ := Option.bind_eq_some_iff.1 h
    cases h
    exact hhead
  · split at h
    · cases h
    · obtain ⟨u, hu, h⟩ := Option.bind_eq_some_iff.1 h
      obtain ⟨t', ht', hu⟩ := Option.bind_eq_some_iff.1 hu
      have htail := reads_readGroups true (7 - head.length) u
      obtain ⟨filled, -, h⟩ := Option.bind_eq_some_iff.1 h
      cases h
      exact hhead.trans ((reads_mark hcolon ht').trans ((reads_mark hcolon hu).trans htail))

end Ip

namespace Http

namespace Form

theorem mem_percentDecode {b : UInt8} (hpercent : b ≠ 0x25) (hhex : hexValue? b = none) {s : Bytes}
    (h : b ∈ s) : b ∈ percentDecode s := by
  fun_induction percentDecode s with
  | case1 a a' rest high low hlow hhigh ih =>
    have hne : ∀ {x : UInt8} {n : Nat}, hexValue? x = some n → b ≠ x := by
      rintro x n hx rfl
      cases hhex.symm.trans hx
    refine List.mem_cons_of_mem _ (ih ?_)
    simpa [hpercent, hne hhigh, hne hlow] using h
  | case2 a a' rest hnone ih =>
    refine List.mem_cons_of_mem _ (ih ?_)
    simpa [hpercent] using h
  | case3 a rest hother ih =>
    rcases List.mem_cons.1 h with rfl | hrest
    · exact List.mem_cons_self
    · exact List.mem_cons_of_mem a (ih hrest)
  | case4 => cases h

end Form

namespace Url

/-! ## Marks -/

/-- The characters that end a host, stand behind a user, or are passed over. -/
def marks : List Char := ['/', '\\', '?', '#', '@', '\t', '\n', '\r']

/-- What makes a character stay until a host with it is refused. -/
structure IsMark (c : Char) : Prop where
  ascii : isAscii c = true
  small : c.toLower = c
  percent : UInt8.ofNat c.toNat ≠ 0x25
  hex : Form.hexValue? (UInt8.ofNat c.toNat) = none
  literal : Ip.isLiteralChar c = false
  digit : c.isDigit = false
  opening : c ≠ '['
  closing : c ≠ ']'
  forbidden : forbiddenInHost c = true

variable {c : Char} {s : List Char}

theorem isMark_of_mem (h : c ∈ marks) : IsMark c := by
  simp only [marks, List.mem_cons, List.not_mem_nil, or_false] at h
  rcases h with rfl | rfl | rfl | rfl | rfl | rfl | rfl | rfl <;> constructor <;> decide

theorem IsMark.ne (h : IsMark c) {d : Char} (hd : Ip.isLiteralChar d = true) : c ≠ d := by
  rintro rfl
  cases h.literal.symm.trans hd

theorem isAuthority_iff : IsAuthority s ↔ ∀ c ∈ marks, c ∉ s := by
  have hmarks : ∀ c, c ∈ marks ↔ ¬(isEnd c = false ∧ c ≠ '@' ∧ isKept c = true) := by
    intro c
    simp only [marks, isEnd, isSlash, isKept, List.mem_cons, List.not_mem_nil, or_false]
    grind
  unfold IsAuthority
  constructor
  · intro h c hc hmem
    exact (hmarks c).1 hc (h c hmem)
  · intro h c hmem
    by_contra hnot
    exact h c ((hmarks c).2 hnot) hmem

theorem IsMark.not_mem_of_readV6 (hc : IsMark c) {groups : Vector UInt16 8}
    (h : Ip.readV6 s = some (groups, [])) : c ∉ s := by
  obtain ⟨front, rfl, hfront⟩ := Ip.reads_readV6 h
  rw [List.append_nil]
  exact fun hmem => hc.ne (hfront c hmem) rfl

/-- A mark in a text is still there when the text is decoded and mapped. -/
theorem IsMark.mem_name (hc : IsMark c) {decoded : String} {name : List Char}
    (hdecoded : Bytes.text? (Form.percentDecode (Bytes.ofText (String.ofList s))) = some decoded)
    (hname : Domain.ascii? decoded.toList = some name) (hmem : c ∈ s) : c ∈ name := by
  have hbytes : UInt8.ofNat c.toNat ∈ Bytes.ofText (String.ofList s) :=
    (Bytes.mem_ofText_iff hc.ascii).2 (by rwa [String.toList_ofList])
  have hkept := Form.mem_percentDecode hc.percent hc.hex hbytes
  rw [Bytes.text?_eq_some_iff.1 hdecoded, Bytes.mem_ofText_iff hc.ascii] at hkept
  exact Domain.mem_of_ascii? hc.ascii hc.small (hc.ne (by decide)) hkept hname

theorem not_mem_of_host? (hc : IsMark c) {host : Host} (h : host? s = some host) : c ∉ s := by
  unfold host? at h
  split at h
  · next rest =>
    split at h
    · next inner heq =>
      injection heq with hinner hlast
      split at h
      · next groups hread =>
        have hrest : rest = inner ++ [']'] := by
          rw [← hinner]
          exact (List.dropLast_append_getLast? _ hlast).symm
        rw [hrest]
        simp [hc.opening, hc.not_mem_of_readV6 hread, hc.closing]
      · cases h
    · cases h
  · obtain ⟨decoded, hdecoded, h⟩ := Option.bind_eq_some_iff.1 h
    obtain ⟨name, hname, h⟩ := Option.bind_eq_some_iff.1 h
    split at h
    · cases h
    · next hallowed =>
      refine fun hmem => hallowed (Bool.or_eq_true_iff.2 (.inr ?_))
      exact List.any_eq_true.2 ⟨c, hc.mem_name hdecoded hname hmem, hc.forbidden⟩

theorem prefix_bracket (s : List Char) : bracket s <+: s := by
  unfold bracket
  split
  · next rest =>
    generalize '[' :: rest = s
    split
    · next hclosing =>
      have hhead := List.head?_dropWhile_not (· != ']') s
      cases hback : s.dropWhile (· != ']') with
      | nil =>
        have hother := List.dropWhile_eq_nil_iff.1 hback ']' (List.contains_iff_mem.1 hclosing)
        cases hother
      | cons c back =>
        rw [hback, List.head?_cons] at hhead
        obtain rfl : c = ']' := by simpa using hhead
        refine ⟨back, ?_⟩
        rw [List.append_assoc, List.singleton_append, ← hback]
        exact List.takeWhile_append_dropWhile
    · rw [List.append_nil]
      exact List.takeWhile_prefix _
  · exact List.takeWhile_prefix _

theorem not_mem_of_port? (hc : IsMark c) {scheme : String} {port : Option Nat}
    (h : port? scheme s = some port) : c ∉ s := by
  unfold port? at h
  split at h
  · exact List.not_mem_nil
  · obtain ⟨n, hn, -⟩ := Option.map_eq_some_iff.1 h
    obtain ⟨m, hm, -⟩ := Option.bind_eq_some_iff.1 hn
    exact (Decimal.natural?_eq_some_iff.1 hm).not_mem hc.digit

theorem not_mem_of_hostAndPort? (hc : IsMark c) {scheme : String} {found : Host × Option Nat}
    (h : hostAndPort? scheme s = some found) : c ∉ s := by
  obtain ⟨host, hhost, h⟩ := Option.bind_eq_some_iff.1 h
  rw [← List.prefix_iff_eq_append.1 (prefix_bracket s)]
  refine List.not_mem_append (not_mem_of_host? hc hhost) ?_
  split at h
  · next hnil =>
    rw [hnil]
    exact List.not_mem_nil
  · next port hport =>
    obtain ⟨n, hn, -⟩ := Option.bind_eq_some_iff.1 h
    rw [hport]
    exact List.not_mem_cons_of_ne_of_not_mem (hc.ne (by decide)) (not_mem_of_port? hc hn)
  · cases h

/-- A text that names a place is a host and a port, and no more. -/
theorem isAuthority_of_placeIn? {place : Place} (h : placeIn? s = some place) : IsAuthority s := by
  obtain ⟨found, hfound, -⟩ := Option.map_eq_some_iff.1 h
  exact isAuthority_iff.2 fun c hc => not_mem_of_hostAndPort? (isMark_of_mem hc) hfound

end Url

end Http

end HostFleet
