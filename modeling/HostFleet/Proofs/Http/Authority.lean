import HostFleet.Proofs.Http.Word
import Mathlib.Data.List.TakeWhile

/-! # The host in front of a path

A URL is written as a host and a path behind one another, and read again as a whole. Here it is said what is
then read as the host.

* `placeIn?`: the place that a text names as host and port; `authority?_map_place` says where it stands in a URL.
* `clean_append`: what cleaning a text does not reach.
* `hostPart`: what is read as host and port in a text; `IsAuthority`: texts that are no more than that.
* `parse?_map_place`: the path does not move the host, unless the text of the host is nothing but slashes.
-/

set_option autoImplicit false

namespace HostFleet.Http.Url

/-! ## Where the host is read -/

/-- The characters that end a host. -/
def isEnd (c : Char) : Bool := isSlash c || c == '?' || c == '#'

/-- The part behind the user. -/
def behindUser (whole : List Char) : List Char :=
  match Text.cutLast '@' whole with
  | some (_, rest) => rest
  | none => whole

/-- The place that a text names as host and port. -/
def placeIn? (s : List Char) : Option Place :=
  (hostAndPort? "http" s).map fun (host, port) =>
    .origin "http" host (port.getD (defaultPort "http"))

theorem authority?_eq_some {scheme : String} {s : List Char} {host : Host} {port : Option Nat}
    (h : hostAndPort? scheme (behindUser (s.takeWhile fun c => !isEnd c)) = some (host, port)) :
    ∃ u, authority? scheme s = some u ∧ u.scheme = scheme ∧ u.host = host ∧ u.port = port := by
  unfold authority?
  extract_lets isEnd whole
  have hwhole : (s.takeWhile fun c => !Url.isEnd c) = whole := rfl
  rw [hwhole] at h
  unfold behindUser at h
  cases hcut : Text.cutLast '@' whole with
  | none =>
    simp only [hcut] at h
    simp only [h]
    exact ⟨_, rfl, rfl, rfl, rfl⟩
  | some cut =>
    simp only [hcut] at h
    simp only [h]
    exact ⟨_, rfl, rfl, rfl, rfl⟩

theorem authority?_eq_none {scheme : String} {s : List Char}
    (h : hostAndPort? scheme (behindUser (s.takeWhile fun c => !isEnd c)) = none) :
    authority? scheme s = none := by
  unfold authority?
  extract_lets isEnd whole
  have hwhole : (s.takeWhile fun c => !Url.isEnd c) = whole := rfl
  rw [hwhole] at h
  unfold behindUser at h
  cases hcut : Text.cutLast '@' whole <;>
  · simp only [hcut] at h
    simp only [h]
    rfl

theorem authority?_map_place (s : List Char) :
    (authority? "http" s).map place = placeIn? (behindUser (s.takeWhile fun c => !isEnd c)) := by
  unfold placeIn?
  cases h : hostAndPort? "http" (behindUser (s.takeWhile fun c => !isEnd c)) with
  | none =>
    rw [authority?_eq_none h]
    rfl
  | some found =>
    obtain ⟨host, port⟩ := found
    obtain ⟨u, hu, hscheme, hhost, hport⟩ := authority?_eq_some h
    rw [hu, Option.map_some, Option.map_some, place, hscheme, hhost, hport]

theorem cutLast_eq_none {sep : Char} {s : List Char} (h : sep ∉ s) :
    Text.cutLast sep s = none := by
  cases hcut : Text.cutLast sep s with
  | none => rfl
  | some cut =>
    obtain ⟨hs, -⟩ := Text.cutLast_eq_some_iff.1 hcut
    rw [hs] at h
    exact absurd (List.mem_append_right _ List.mem_cons_self) h

theorem behindUser_of_not_mem {s : List Char} (h : '@' ∉ s) : behindUser s = s := by
  unfold behindUser
  rw [cutLast_eq_none h]

theorem IsWord.not_mem {w : List Char} (h : IsWord w) {c : Char} (hc : isWordChar c = false) : c ∉ w :=
  fun hmem => Bool.noConfusion (hc.symm.trans (h.all c hmem))

/-- A word is looked up as a name, with the port of its scheme. -/
theorem placeIn?_of_isWord {w : List Char} (h : IsWord w) {place : Place}
    (hplace : placeIn? w = some place) : place = .origin "http" (.domain w) (defaultPort "http") := by
  have hbracket : bracket w = w := by
    unfold bracket
    split
    · exact absurd List.mem_cons_self (h.not_mem (by decide))
    · refine List.takeWhile_eq_self_iff.2 fun c hc => bne_iff_ne.2 ?_
      rintro rfl
      exact h.not_mem (by decide) hc
  obtain ⟨⟨host, port⟩, hread, rfl⟩ := Option.map_eq_some_iff.1 hplace
  unfold hostAndPort? at hread
  rw [hbracket] at hread
  simp only [List.drop_length] at hread
  obtain ⟨host', hhost, hread⟩ := Option.bind_eq_some_iff.1 hread
  injection hread with hread
  injection hread with hsame hport
  rw [← hsame, ← hport, host?_of_isWord h hhost]
  rfl

/-! ## What is not read -/

def isOuter (c : Char) : Bool := c.toNat ≤ 0x20

def isKept (c : Char) : Bool := !(c == '\t' || c == '\n' || c == '\r')

def kept (s : List Char) : List Char := s.filter isKept

def trimmed (s : List Char) : List Char := (s.reverse.dropWhile isOuter).reverse

theorem kept_append (s t : List Char) : kept (s ++ t) = kept s ++ kept t := List.filter_append ..

theorem trimmed_append {s : List Char} {c : Char} (hc : isOuter c = false) (t : List Char) :
    trimmed (s ++ c :: t) = s ++ c :: trimmed t := by
  have hrev : (s ++ c :: t).reverse = t.reverse ++ (c :: s.reverse) := by simp
  unfold trimmed
  rw [hrev, List.dropWhile_append]
  split
  · next hall =>
    rw [List.isEmpty_iff] at hall
    rw [hall, List.dropWhile_cons_of_neg (by simp [hc])]
    simp
  · simp

/-- The start of a text up to a sign stays, whatever stands behind it. -/
theorem clean_append {s : List Char} {b c : Char} (hb : isOuter b = false) (hc : isOuter c = false)
    (t : List Char) : clean (b :: s ++ c :: t) = kept (b :: s) ++ kept (c :: trimmed t) := by
  have hfirst : (b :: s ++ c :: t).dropWhile isOuter = b :: s ++ c :: t :=
    List.dropWhile_cons_of_neg (by simp [hb])
  have hclean : clean (b :: s ++ c :: t) = kept (trimmed ((b :: s ++ c :: t).dropWhile isOuter)) :=
    rfl
  rw [hclean, hfirst, trimmed_append hc, kept_append]

/-! ### Words are read -/

theorem isOuter_of_isWordChar {c : Char} (h : isWordChar c = true) : isOuter c = false := by
  have hrange := toNat_of_isWordChar h
  exact decide_eq_false (by omega)

theorem eq_of_isEnd {c : Char} (h : isEnd c = true) : c = '/' ∨ c = '\\' ∨ c = '?' ∨ c = '#' := by
  simp only [isEnd, isSlash, Bool.or_eq_true, beq_iff_eq] at h
  rcases h with ((h | h) | h) | h
  · exact .inl h
  · exact .inr (.inl h)
  · exact .inr (.inr (.inl h))
  · exact .inr (.inr (.inr h))

theorem isKept_of_isWordChar {c : Char} (h : isWordChar c = true) : isKept c = true := by
  have hrange := toNat_of_isWordChar h
  unfold isKept
  rw [Bool.not_eq_true', Bool.or_eq_false_iff, Bool.or_eq_false_iff]
  refine ⟨⟨?_, ?_⟩, ?_⟩ <;>
  · refine beq_false_of_ne ?_
    rintro rfl
    revert h
    decide

theorem not_isEnd_of_isWordChar {c : Char} (h : isWordChar c = true) : isEnd c = false := by
  cases hend : isEnd c with
  | false => rfl
  | true => rcases eq_of_isEnd hend with rfl | rfl | rfl | rfl <;> exact absurd h (by decide)

/-- Behind a word stands nothing, or what ends a host; it still does when the text is cleaned. -/
theorem isEnd_of_mem_head? {rest : List Char} (h : ∀ c ∈ rest.head?, isEnd c = true) :
    ∀ c ∈ (kept (trimmed rest)).head?, isEnd c = true := by
  cases rest with
  | nil => exact fun c hc => nomatch hc
  | cons d rest =>
    have hd : isEnd d = true := h d rfl
    have hsign : isOuter d = false ∧ isKept d = true := by
      rcases eq_of_isEnd hd with rfl | rfl | rfl | rfl <;> decide
    have htrimmed : trimmed (d :: rest) = d :: trimmed rest :=
      trimmed_append (s := []) hsign.1 rest
    rw [htrimmed, kept, List.filter_cons_of_pos hsign.2]
    intro c hc
    injection hc with hc
    exact hc ▸ hd

theorem takeWhile_append_of_isEnd {s t : List Char} (h : ∀ c ∈ t.head?, isEnd c = true) :
    (s ++ t).takeWhile (fun c => !isEnd c) = s.takeWhile fun c => !isEnd c := by
  have htail : (t.takeWhile fun c => !isEnd c) = [] := by
    cases t with
    | nil => rfl
    | cons c t => exact List.takeWhile_cons_of_neg (by simp [h c rfl])
  rw [List.takeWhile_append, htail, List.append_nil]
  split
  · next hlength =>
    have hfront := List.takeWhile_prefix (l := s) fun c => !isEnd c
    exact (hfront.eq_of_length hlength).symm
  · rfl

/-! ## The host decides -/

/-- What stands in front of a host. -/
def webMark : List Char := ['h', 't', 't', 'p', ':', '/', '/']

/-- The part in which the socket is named when a path that begins with a slash stands behind a host. -/
def wholeOf (host path : List Char) : List Char :=
  ((kept host ++ '/' :: kept (trimmed path)).dropWhile isSlash).takeWhile fun c => !isEnd c

/-- Behind the scheme a host and a path that begins with a slash are read, without the slashes in front. -/
theorem parse?_eq_authority? {text : String} {host path : List Char}
    (h : text.toList = webMark ++ host ++ '/' :: path) :
    parse? text =
      authority? "http" ((kept host ++ '/' :: kept (trimmed path)).dropWhile isSlash) := by
  have hclean : clean text.toList =
      ['h', 't', 't', 'p'] ++ ':' :: '/' :: '/' :: (kept host ++ '/' :: kept (trimmed path)) := by
    have happend : clean (webMark ++ host ++ '/' :: path) =
        kept (webMark ++ host) ++ kept ('/' :: trimmed path) :=
      clean_append (by decide) (by decide) path
    have hmark : kept webMark = webMark := by decide
    have hslash : kept ('/' :: trimmed path) = '/' :: kept (trimmed path) :=
      List.filter_cons_of_pos (by decide)
    rw [h, happend, kept_append, hmark, hslash]
    rfl
  have hscheme : scheme? (clean text.toList) =
      some ("http", '/' :: '/' :: (kept host ++ '/' :: kept (trimmed path))) := by
    unfold scheme?
    rw [hclean, Text.cutFirst_eq_some_iff.2 ⟨rfl, by decide⟩]
    rfl
  have hweb : isWeb "http" = true := by decide
  unfold parse?
  rw [hscheme]
  simp only [hweb, if_true]
  rfl

/-- Does the path begin with a word? -/
def BeginsWithWord (path : List Char) : Prop :=
  ∃ w rest, path = '/' :: (w ++ rest) ∧ IsWord w ∧ ∀ c ∈ rest.head?, isEnd c = true

theorem kept_trimmed_of_isWord {w : List Char} (h : IsWord w) (rest : List Char) :
    kept (trimmed (w ++ rest)) = w ++ kept (trimmed rest) := by
  have hkept : kept w = w :=
    List.filter_eq_self.2 fun c hc => isKept_of_isWordChar (h.all c hc)
  rcases List.eq_nil_or_concat w with rfl | ⟨front, last, rfl⟩
  · exact h.elim
  · have hlast := isOuter_of_isWordChar (h.all last (by simp))
    have htrimmed := trimmed_append hlast rest (s := front)
    rw [List.append_cons, ← List.concat_eq_append] at htrimmed
    rw [htrimmed, List.append_cons, ← List.concat_eq_append, kept_append, hkept]

/-- Behind slashes alone the word itself is read as the host. -/
theorem takeWhile_dropWhile_of_isWord {w : List Char} (h : IsWord w) {rest : List Char}
    (hrest : ∀ c ∈ rest.head?, isEnd c = true) :
    ((w ++ rest).dropWhile isSlash).takeWhile (fun c => !isEnd c) = w := by
  have hnot : ∀ c ∈ w, isEnd c = false := fun c hc => not_isEnd_of_isWordChar (h.all c hc)
  have hdrop : (w ++ rest).dropWhile isSlash = w ++ rest := by
    cases w with
    | nil => exact h.elim
    | cons c more =>
      have hc := hnot c List.mem_cons_self
      simp only [isEnd, Bool.or_eq_false_iff] at hc
      exact List.dropWhile_cons_of_neg (by simp [hc.1.1])
  rw [hdrop, takeWhile_append_of_isEnd hrest]
  exact List.takeWhile_eq_self_iff.2 fun c hc => by simp [hnot c hc]

/-- What stands behind the first slash of a path, up to what ends a host. -/
def firstSegment (path : List Char) : List Char := (path.drop 1).takeWhile fun c => !isEnd c

theorem firstSegment_of_isWord {w rest : List Char} (h : IsWord w)
    (hrest : ∀ c ∈ rest.head?, isEnd c = true) : firstSegment ('/' :: (w ++ rest)) = w := by
  unfold firstSegment
  rw [List.drop_succ_cons, List.drop_zero, takeWhile_append_of_isEnd hrest]
  exact List.takeWhile_eq_self_iff.2 fun c hc => by simp [not_isEnd_of_isWordChar (h.all c hc)]

theorem BeginsWithWord.isWord {path : List Char} (h : BeginsWithWord path) : IsWord (firstSegment path) := by
  obtain ⟨w, rest, rfl, hword, hrest⟩ := h
  exact (firstSegment_of_isWord hword hrest).symm ▸ hword

/-- Is the text nothing but slashes, where it is read in a URL? -/
def isSlashes (s : List Char) : Bool := (kept s).all isSlash

/-- What is read as host and port of a text in front of a path. -/
def hostPart (s : List Char) : List Char :=
  behindUser (((kept s).dropWhile isSlash).takeWhile fun c => !isEnd c)

theorem behindUser_wholeOf {host path : List Char} (h : isSlashes host = false) :
    behindUser (wholeOf host path) = hostPart host := by
  unfold wholeOf hostPart
  rw [List.dropWhile_append]
  split
  · next hempty =>
    rw [List.isEmpty_iff, List.dropWhile_eq_nil_iff] at hempty
    have hall : isSlashes host = true := List.all_eq_true.2 hempty
    rw [hall] at h
    cases h
  · rw [takeWhile_append_of_isEnd]
    intro c hc
    injection hc with hc
    exact hc ▸ rfl

/-- Behind slashes alone the first word of the path is read as the host. -/
theorem behindUser_wholeOf_of_isSlashes {host w rest : List Char} (h : isSlashes host = true)
    (hword : IsWord w) (hrest : ∀ c ∈ rest.head?, isEnd c = true) :
    behindUser (wholeOf host (w ++ rest)) = w := by
  have hdrop : (kept host).dropWhile isSlash = [] :=
    List.dropWhile_eq_nil_iff.2 (List.all_eq_true.1 h)
  unfold wholeOf
  rw [List.dropWhile_append, hdrop, if_pos List.isEmpty_nil, List.dropWhile_cons_of_pos (by decide),
    kept_trimmed_of_isWord hword, takeWhile_dropWhile_of_isWord hword (isEnd_of_mem_head? hrest)]
  exact behindUser_of_not_mem (hword.not_mem (by decide))

theorem parse?_map_place (host : String) {path : String} (h : BeginsWithWord path.toList) :
    (parse? ("http://" ++ host ++ path)).map place =
      if isSlashes host.toList then placeIn? (firstSegment path.toList)
      else placeIn? (hostPart host.toList) := by
  obtain ⟨w, rest, hpath, hword, hrest⟩ := h
  have htext : ("http://" ++ host ++ path).toList = webMark ++ host.toList ++ '/' :: (w ++ rest) := by
    rw [String.toList_append, String.toList_append, hpath]
    rfl
  have hwhole : (parse? ("http://" ++ host ++ path)).map place =
      placeIn? (behindUser (wholeOf host.toList (w ++ rest))) := by
    rw [parse?_eq_authority? htext, authority?_map_place]
    rfl
  rw [hwhole, hpath, firstSegment_of_isWord hword hrest]
  split
  · next hslashes => rw [behindUser_wholeOf_of_isSlashes hslashes hword hrest]
  · next hother => rw [behindUser_wholeOf (Bool.eq_false_iff.2 hother)]

/-! ## Texts that are host and port -/

/-- No sign of the text ends a host, stands behind a user or is passed over. -/
def IsAuthority (s : List Char) : Prop := ∀ c ∈ s, isEnd c = false ∧ c ≠ '@' ∧ isKept c = true

variable {s : List Char}

theorem IsAuthority.isSlashes_eq (h : IsAuthority s) (hne : s ≠ []) : isSlashes s = false := by
  obtain ⟨c, more, rfl⟩ := List.exists_cons_of_ne_nil hne
  obtain ⟨hend, -, hkept⟩ := h c List.mem_cons_self
  simp only [isEnd, Bool.or_eq_false_iff] at hend
  unfold isSlashes kept
  rw [List.filter_cons_of_pos hkept, List.all_cons, hend.1.1, Bool.false_and]

/-- Such a text is read as it stands. -/
theorem IsAuthority.hostPart_eq (h : IsAuthority s) : hostPart s = s := by
  have hkept : kept s = s := List.filter_eq_self.2 fun c hc => (h c hc).2.2
  have hdrop : s.dropWhile isSlash = s := by
    cases s with
    | nil => rfl
    | cons c more =>
      have hend := (h c List.mem_cons_self).1
      simp only [isEnd, Bool.or_eq_false_iff] at hend
      exact List.dropWhile_cons_of_neg (by simp [hend.1.1])
  have htake : (s.takeWhile fun c => !isEnd c) = s :=
    List.takeWhile_eq_self_iff.2 fun c hc => by simp [(h c hc).1]
  unfold hostPart
  rw [hkept, hdrop, htake, behindUser_of_not_mem fun hmem => (h '@' hmem).2.1 rfl]

end HostFleet.Http.Url
