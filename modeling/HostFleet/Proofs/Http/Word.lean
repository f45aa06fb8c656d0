import HostFleet.Http.Url
import HostFleet.Proofs.Text.Fields
import HostFleet.Proofs.Text.Utf8

/-! # Words in the place of a host

A path begins with a word: a lowercase letter with letters, digits and dots behind it. Where such a word
is read as a host, it is a name, and never an address.

* `IsWord`: the segments with which the paths of requests begin.
* `eq_of_ascii?`: a word is looked up as it is, if at all.
* `host?_of_isWord`: a word is read as the name that it is.
-/

set_option autoImplicit false

namespace HostFleet.Http.Url

open Text.Punycode (isAscii)

/-! ## Words -/

def isWordChar (c : Char) : Bool := c.isLower || c.isDigit || c == '.'

/-- A lowercase letter, and lowercase letters, digits and dots behind it. -/
def IsWord : List Char → Prop
  | c :: more => c.isLower = true ∧ more.all isWordChar = true
  | [] => False

theorem toNat_of_isLower {c : Char} (h : c.isLower = true) : 97 ≤ c.toNat ∧ c.toNat ≤ 122 := by
  have hand : (decide (c.val ≥ 'a'.val) && decide (c.val ≤ 'z'.val)) = true := h
  rw [Bool.and_eq_true, decide_eq_true_eq, decide_eq_true_eq] at hand
  exact hand

theorem toNat_of_isWordChar {c : Char} (h : isWordChar c = true) :
    (97 ≤ c.toNat ∧ c.toNat ≤ 122) ∨ (48 ≤ c.toNat ∧ c.toNat ≤ 57) ∨ c.toNat = 46 := by
  simp only [isWordChar, Bool.or_eq_true, beq_iff_eq] at h
  rcases h with (h | h) | h
  · exact .inl (toNat_of_isLower h)
  · simp only [Char.isDigit, Bool.and_eq_true, decide_eq_true_eq] at h
    exact .inr (.inl h)
  · exact .inr (.inr (h ▸ rfl))

theorem isAscii_of_isWordChar {c : Char} (h : isWordChar c = true) : isAscii c = true := by
  have hrange := toNat_of_isWordChar h
  have hlt : c.toNat < 0x80 := by omega
  exact decide_eq_true hlt

theorem IsWord.all {w : List Char} (h : IsWord w) : ∀ c ∈ w, isWordChar c = true := by
  cases w with
  | nil => exact h.elim
  | cons c more =>
    intro d hd
    rcases List.mem_cons.1 hd with rfl | hd
    · simp [isWordChar, h.1]
    · exact List.all_eq_true.1 h.2 d hd

/-! ## How a word is decoded -/

theorem percentDecode_of_not_mem {b : Bytes} (h : 0x25 ∉ b) : Form.percentDecode b = b := by
  fun_induction Form.percentDecode b with
  | case1 a b rest high low hhigh hlow ih => simp at h
  | case2 a b rest hnone ih => simp at h
  | case3 b rest hb ih => rw [ih (fun hr => h (List.mem_cons_of_mem b hr))]
  | case4 => rfl

theorem decode_word {w : List Char} (h : ∀ c ∈ w, isWordChar c = true) :
    Bytes.text? (Form.percentDecode (Bytes.ofText (String.ofList w))) = some (String.ofList w) := by
  rw [percentDecode_of_not_mem, Bytes.text?_ofText]
  rw [Bytes.ofText_ofList, List.mem_flatMap]
  rintro ⟨c, hc, hmem⟩
  have hrange := toNat_of_isWordChar (h c hc)
  rw [Bytes.utf8EncodeChar_of_isAscii (isAscii_of_isWordChar (h c hc)), List.mem_singleton] at hmem
  have heq : 37 = c.toNat % 256 := by
    have := congrArg UInt8.toNat hmem
    rwa [UInt8.toNat_ofNat'] at this
  omega

/-! ## Its labels -/

theorem plain?_of_isWordChar {c : Char} (h : isWordChar c = true) :
    Domain.plain? c = some [c] := by
  have hlower : c.toLower = c := by
    have hrange := toNat_of_isWordChar h
    unfold Char.toLower
    refine dif_neg ?_
    rintro ⟨hlow, hhigh⟩
    have hlow : 65 ≤ c.toNat := hlow
    have hhigh : c.toNat ≤ 90 := hhigh
    omega
  unfold Domain.plain?
  rw [if_pos (isAscii_of_isWordChar h), hlower]

theorem mapM_plain? {w : List Char} (h : ∀ c ∈ w, isWordChar c = true) :
    w.mapM Domain.plain? = some (w.map fun c => [c]) := by
  induction w with
  | nil => rfl
  | cons c w ih =>
    rw [List.mapM_cons, plain?_of_isWordChar (h c List.mem_cons_self),
      ih fun d hd => h d (List.mem_cons_of_mem c hd)]
    rfl

theorem eq_of_label? {s t : List Char} (h : s.all isAscii = true)
    (ht : Domain.label? s = some t) : t = s := by
  unfold Domain.label? at ht
  split at ht
  · split at ht
    · injection ht with ht
      exact ht.symm
    · cases ht
  · rw [if_pos h] at ht
    injection ht with ht
    exact ht.symm

theorem eq_of_mapM_label? {parts labels : List (List Char)}
    (h : ∀ part ∈ parts, part.all isAscii = true)
    (hlabels : parts.mapM Domain.label? = some labels) : labels = parts := by
  induction parts generalizing labels with
  | nil =>
    injection hlabels with hlabels
    exact hlabels.symm
  | cons part parts ih =>
    rw [List.mapM_cons] at hlabels
    obtain ⟨label, hlabel, hlabels⟩ := Option.bind_eq_some_iff.1 hlabels
    obtain ⟨more, hmore, hlabels⟩ := Option.bind_eq_some_iff.1 hlabels
    injection hlabels with hlabels
    rw [← hlabels, eq_of_label? (h part List.mem_cons_self) hlabel,
      ih (fun p hp => h p (List.mem_cons_of_mem part hp)) hmore]

/-- A word is looked up as it is, if at all. -/
theorem eq_of_ascii? {w name : List Char} (h : ∀ c ∈ w, isWordChar c = true)
    (hname : Domain.ascii? w = some name) : name = w := by
  unfold Domain.ascii? at hname
  rw [mapM_plain? h] at hname
  have hflat : (w.map fun c => [c]).flatten = w := by
    rw [← List.flatMap_def]
    exact List.flatMap_singleton' w
  obtain ⟨plain, hplain, hname⟩ := Option.bind_eq_some_iff.1 hname
  injection hplain with hplain
  rw [← hplain, hflat] at hname
  obtain ⟨labels, hlabels, hname⟩ := Option.bind_eq_some_iff.1 hname
  injection hname with hname
  have hparts : labels = Text.fields '.' w := by
    refine eq_of_mapM_label? (fun part hpart => List.all_eq_true.2 fun c hc => ?_) hlabels
    exact isAscii_of_isWordChar (h c (Text.mem_of_mem_fields hpart hc))
  rw [← hname, hparts, Text.intercalate_fields]

/-! ## Its numbers -/

theorem ipNumber?_of_isLower {c : Char} (h : c.isLower = true) (more : List Char) :
    ipNumber? (c :: more) = none := by
  have hrange := toNat_of_isLower h
  have hdigit : ∀ n, ((Bytes.digitOfHex? c).bind fun d =>
      if d < 10 then some (10 * n + d) else none) = none := by
    intro n
    unfold Bytes.digitOfHex?
    have hd : ¬('0' ≤ c ∧ c ≤ '9') := by
      rintro ⟨-, hhigh⟩
      have hhigh : c.toNat ≤ 57 := hhigh
      omega
    rw [if_neg hd]
    split
    · rw [Option.bind_some, if_neg (by omega)]
    · split
      · next hupper =>
        have hhigh : c.toNat ≤ 70 := hupper.2
        omega
      · rfl
  have hzero : c ≠ '0' := by
    rintro rfl
    revert h
    decide
  unfold ipNumber?
  split
  · next heq => cases heq
  · next heq => exact absurd (List.cons.inj heq).1 hzero
  · next heq => exact absurd (List.cons.inj heq).1 hzero
  · next heq => exact absurd (List.cons.inj heq).1 hzero
  · simp only [List.foldlM_cons, hdigit]
    rfl

theorem mem_dotted {name first : List Char} {rest : List (List Char)}
    (h : Text.fields '.' name = first :: rest) (hfirst : first ≠ []) : first ∈ dotted name := by
  unfold dotted
  rw [h]
  split
  · next last more heq =>
    have hmem : first ∈ ([] :: last :: more) := by
      rw [← heq]
      simp
    rcases List.mem_cons.1 hmem with rfl | hmem
    · exact absurd rfl hfirst
    · exact List.mem_reverse.2 hmem
  · exact List.mem_cons_self

theorem mapM_eq_none {α β : Type} {f : α → Option β} {l : List α} {a : α} (ha : a ∈ l)
    (h : f a = none) : l.mapM f = none := by
  induction l with
  | nil => cases ha
  | cons b l ih =>
    rw [List.mapM_cons]
    rcases List.mem_cons.1 ha with rfl | ha
    · rw [h]
      rfl
    · rw [ih ha]
      cases f b <;> rfl

theorem ipv4?_of_isWord {w : List Char} (h : IsWord w) : ipv4? w = none := by
  cases w with
  | nil => exact h.elim
  | cons c more =>
    have hdot : (c == '.') = false := by
      refine beq_false_of_ne ?_
      rintro rfl
      exact absurd h.1 (by decide)
    obtain ⟨f, rest, hfields⟩ : ∃ f rest, Text.fields '.' (c :: more) = (c :: f) :: rest := by
      unfold Text.fields
      rw [hdot]
      cases Text.fields '.' more with
      | nil => exact ⟨[], [], rfl⟩
      | cons f rest => exact ⟨f, rest, rfl⟩
    have hnumbers : (dotted (c :: more)).mapM ipNumber? = none :=
      mapM_eq_none (mem_dotted hfields (List.cons_ne_nil c f)) (ipNumber?_of_isLower h.1 f)
    unfold ipv4?
    rw [hnumbers]
    rfl

/-- A word that is read as a host is the name that it is. -/
theorem host?_of_isWord {w : List Char} (h : IsWord w) {host : Host} (hhost : host? w = some host) :
    host = .domain w := by
  unfold host? at hhost
  split at hhost
  · exact absurd h.1 (by decide)
  · rw [decode_word h.all, Option.bind_eq_bind, Option.bind_some, String.toList_ofList] at hhost
    obtain ⟨name, hname, hhost⟩ := Option.bind_eq_some_iff.1 hhost
    rw [eq_of_ascii? h.all hname, ipv4?_of_isWord h] at hhost
    split at hhost
    · cases hhost
    · split at hhost
      · cases hhost
      · injection hhost with hhost
        exact hhost.symm

end HostFleet.Http.Url
