import HostFleet.Proofs.Http.Authority
import HostFleet.Proofs.Proxy.Path

/-! # Targets that a URL leaves as they are

Where a target is read as part of a URL, some signs are escaped, backslashes become slashes and dot segments
are resolved. A target is the same afterwards only if there is nothing of this kind in it.

* `escape_eq_self_iff`: a text without signs that are escaped.
* `resolve_eq_iff`: segments stay if each of them is settled.
* `pathOf_resolve_eq_iff`: a path that is the same afterwards.
* `IsSettled`: targets that are the same afterwards; `target_eq_iff` says that no others are.
-/

set_option autoImplicit false

namespace HostFleet.Http.Url

open Target (behindPath isPathChar isQueryChar)

variable {s rest : List Char} {c : Char}

/-! ## Escapes -/

theorem percentEncode_eq_cons (c : Char) : ∃ more, percentEncode c = '%' :: more := by
  have hne : Bytes.ofText c.toString ≠ [] := by
    rw [Bytes.ofText_toString]
    exact String.utf8EncodeChar_ne_nil
  obtain ⟨b, bytes, hbytes⟩ := List.exists_cons_of_ne_nil hne
  refine ⟨Form.upperHex b ++ bytes.flatMap fun b => '%' :: Form.upperHex b, ?_⟩
  unfold percentEncode
  rw [hbytes, List.flatMap_cons, List.cons_append]

theorem escape_eq_self_iff {escaped : Char → Bool} (hmark : escaped '%' = false) :
    escape escaped s = s ↔ ∀ c ∈ s, escaped c = false := by
  unfold escape
  induction s with
  | nil => simp
  | cons c s ih =>
    rw [List.flatMap_cons, List.forall_mem_cons]
    cases hc : escaped c with
    | true =>
      -- an escape begins with a percent sign, which is not escaped itself
      obtain ⟨more, hmore⟩ := percentEncode_eq_cons c
      refine ⟨fun h => ?_, fun h => nomatch h.1⟩
      rw [if_pos rfl, hmore, List.cons_append] at h
      rw [← (List.cons.inj h).1, hmark] at hc
      cases hc
    | false => simpa using ih

/-- The signs of an escape. -/
def isEscapeChar (c : Char) : Bool := c == '%' || Json.Numeral.isDigit c || ('A' ≤ c && c ≤ 'F')

theorem isEscapeChar_of_mem_upperHex {b : UInt8} (h : c ∈ Form.upperHex b) : isEscapeChar c = true := by
  have hdigit : ∀ n < 16, isEscapeChar (Bytes.hexDigit n).toUpper = true := by decide
  have hb : b.toNat < 256 := b.toNat_lt
  unfold Form.upperHex Bytes.hexByte at h
  rw [List.map_cons, List.map_singleton, List.mem_cons, List.mem_singleton] at h
  rcases h with rfl | rfl
  · exact hdigit _ (by omega)
  · exact hdigit _ (by omega)

theorem mem_escape {escaped : Char → Bool} (h : c ∈ escape escaped s) :
    c ∈ s ∧ escaped c = false ∨ isEscapeChar c = true := by
  unfold escape at h
  obtain ⟨d, hd, hmem⟩ := List.mem_flatMap.1 h
  split at hmem
  · unfold percentEncode at hmem
    obtain ⟨b, -, hb⟩ := List.mem_flatMap.1 hmem
    rcases List.mem_cons.1 hb with rfl | hb
    · exact .inr rfl
    · exact .inr (isEscapeChar_of_mem_upperHex hb)
  · next hnot =>
    rw [List.mem_singleton.1 hmem]
    exact .inl ⟨hd, Bool.eq_false_iff.2 hnot⟩

/-! ## Segments -/

/-- The segment stands for itself: it has no sign that is escaped, and it is no place relative to another. -/
structure IsSettledSegment (segment : List Char) : Prop where
  here : dots segment ≠ ['.']
  above : dots segment ≠ ['.', '.']
  plain : ∀ c ∈ segment, escapedInPath c = false

theorem length_up_le (done : List (List Char)) : (up done).length ≤ done.length := by
  unfold up
  split
  · exact Nat.le_refl _
  · split
    · exact Nat.le_refl _
    · exact Nat.le_succ _

theorem length_resolve_le (done segs : List (List Char)) :
    (resolve done segs).length ≤ done.length + segs.length := by
  fun_induction resolve done segs with
  | case1 done => simp
  | case2 done segment hdots => simp
  | case3 done segment hone htwo => have := length_up_le done; simp; omega
  | case4 done segment hone htwo => simp
  | case5 done segment more hmore hdots ih => simp at ih ⊢; omega
  | case6 done segment more hmore hone htwo ih =>
    have := length_up_le done
    simp at ih ⊢
    omega
  | case7 done segment more hmore hone htwo ih => simp at ih ⊢; omega

theorem dots_nil : dots [] = [] := by
  unfold dots
  rfl

theorem isSettledSegment_iff (here : ¬(dots s == ['.']) = true) (above : ¬(dots s == ['.', '.']) = true) :
    IsSettledSegment s ↔ escape escapedInPath s = s := by
  rw [escape_eq_self_iff (by decide)]
  exact ⟨IsSettledSegment.plain, fun hplain => ⟨mt beq_iff_eq.2 here, mt beq_iff_eq.2 above, hplain⟩⟩

/-- Segments stay only if all of them are settled: a dot in the end leaves an empty segment, and any other
leaves fewer. -/
theorem resolve_eq_iff {done before segs : List (List Char)} (hlength : before.length = done.length)
    (hsegs : segs ≠ []) :
    resolve done segs = segs.reverse ++ before ↔ (∀ seg ∈ segs, IsSettledSegment seg) ∧ before = done := by
  fun_induction resolve done segs generalizing before with
  | case1 done => exact absurd rfl hsegs
  | case2 done segment hdots =>
    have hnot : ¬IsSettledSegment segment := fun h => h.here (beq_iff_eq.1 hdots)
    refine iff_of_false (fun heq => ?_) fun h => hnot (h.1 segment (List.mem_singleton.2 rfl))
    have hempty : [] = segment := (List.cons.inj heq).1
    rw [← hempty, dots_nil] at hdots
    cases hdots
  | case3 done segment hone hdots =>
    have hnot : ¬IsSettledSegment segment := fun h => h.above (beq_iff_eq.1 hdots)
    refine iff_of_false (fun heq => ?_) fun h => hnot (h.1 segment (List.mem_singleton.2 rfl))
    have hempty : [] = segment := (List.cons.inj heq).1
    rw [← hempty, dots_nil] at hdots
    cases hdots
  | case4 done segment hone htwo =>
    rw [List.forall_mem_singleton, isSettledSegment_iff hone htwo, List.reverse_singleton,
      List.singleton_append, List.cons_eq_cons]
    exact and_congr_right fun _ => eq_comm
  | case5 done segment more hmore hdots ih =>
    have hnot : ¬IsSettledSegment segment := fun h => h.here (beq_iff_eq.1 hdots)
    refine iff_of_false (fun heq => ?_) fun h => hnot (h.1 segment List.mem_cons_self)
    have hle := length_resolve_le done more
    rw [heq] at hle
    simp at hle
    omega
  | case6 done segment more hmore hone hdots ih =>
    have hnot : ¬IsSettledSegment segment := fun h => h.above (beq_iff_eq.1 hdots)
    refine iff_of_false (fun heq => ?_) fun h => hnot (h.1 segment List.mem_cons_self)
    have hle := length_resolve_le (up done) more
    have hup := length_up_le done
    rw [heq] at hle
    simp at hle
    omega
  | case7 done segment more hmore hone htwo ih =>
    have hrest : resolve (escape escapedInPath segment :: done) more =
          more.reverse ++ segment :: before ↔
        (∀ seg ∈ more, IsSettledSegment seg) ∧ segment :: before = escape escapedInPath segment :: done :=
      ih (by simp [hlength]) fun hnil => hmore hnil
    rw [List.reverse_cons, List.append_assoc, List.singleton_append, hrest, List.forall_mem_cons,
      isSettledSegment_iff hone htwo, List.cons_eq_cons]
    constructor
    · rintro ⟨hall, hsame, hbefore⟩
      exact ⟨⟨hsame.symm, hall⟩, hbefore⟩
    · rintro ⟨⟨hsame, hall⟩, hbefore⟩
      exact ⟨hall, hsame.symm, hbefore⟩

theorem mem_up {done : List (List Char)} {seg : List Char} (h : seg ∈ up done) : seg ∈ done := by
  unfold up at h
  split at h
  · cases h
  · split at h
    · exact h
    · exact List.mem_cons_of_mem _ h

/-- What is left are segments in front, empty ones, and those that were read. -/
theorem forall_mem_resolve {P : List Char → Prop} {done segs : List (List Char)} (hnil : P [])
    (hdone : ∀ seg ∈ done, P seg) (hsegs : ∀ seg ∈ segs, P (escape escapedInPath seg)) :
    ∀ seg ∈ resolve done segs, P seg := by
  have hmore : ∀ {segment : List Char} {more : List (List Char)},
      (∀ seg ∈ segment :: more, P (escape escapedInPath seg)) →
      ∀ seg ∈ more, P (escape escapedInPath seg) := fun h seg hseg => h seg (List.mem_cons_of_mem _ hseg)
  have hup : ∀ {done : List (List Char)}, (∀ seg ∈ done, P seg) → ∀ seg ∈ up done, P seg :=
    fun h seg hseg => h seg (mem_up hseg)
  fun_induction resolve done segs with
  | case1 done => exact hdone
  | case2 done segment hdots => exact List.forall_mem_cons.2 ⟨hnil, hdone⟩
  | case3 done segment hone hdots => exact List.forall_mem_cons.2 ⟨hnil, hup hdone⟩
  | case4 done segment hone htwo =>
    exact List.forall_mem_cons.2 ⟨hsegs segment (List.mem_singleton.2 rfl), hdone⟩
  | case5 done segment more hne hdots ih => exact ih hdone (hmore hsegs)
  | case6 done segment more hne hone hdots ih => exact ih (hup hdone) (hmore hsegs)
  | case7 done segment more hne hone htwo ih =>
    exact ih (List.forall_mem_cons.2 ⟨hsegs segment List.mem_cons_self, hdone⟩) (hmore hsegs)

theorem resolve_ne_nil (done : List (List Char)) {segs : List (List Char)} (h : segs ≠ []) :
    resolve done segs ≠ [] := by
  fun_induction resolve done segs with
  | case1 done => exact absurd rfl h
  | case2 | case3 | case4 => exact List.cons_ne_nil _ _
  | case5 done segment more hmore hdots ih => exact ih fun hnil => hmore hnil
  | case6 done segment more hmore hone hdots ih => exact ih fun hnil => hmore hnil
  | case7 done segment more hmore hone htwo ih => exact ih fun hnil => hmore hnil

/-! ## Paths -/

/-- Segments behind slashes are a path that is cut into just these. -/
theorem flatMap_eq_iff {segs : List (List Char)} (hsegs : segs ≠ []) (hslash : ∀ seg ∈ segs, '/' ∉ seg) :
    segs.flatMap (fun seg => '/' :: seg) = '/' :: s ↔ Text.fields '/' s = segs := by
  induction segs generalizing s with
  | nil => exact absurd rfl hsegs
  | cons a more ih =>
    obtain ⟨ha, hmore⟩ := List.forall_mem_cons.1 hslash
    rw [List.flatMap_cons, List.cons_append, List.cons.injEq, and_iff_right rfl]
    cases more with
    | nil =>
      rw [List.flatMap_nil, List.append_nil, Text.fields_eq_singleton_iff]
      exact ⟨fun h => ⟨h.symm, h ▸ ha⟩, fun h => h.1.symm⟩
    | cons b more =>
      rw [Text.fields_eq_cons_iff]
      constructor
      · intro h
        obtain ⟨rest, hrest⟩ : ∃ rest, (b :: more).flatMap (fun seg => '/' :: seg) = '/' :: rest :=
          ⟨_, List.flatMap_cons⟩
        rw [hrest] at h
        exact ⟨rest, h.symm, ha, (ih (List.cons_ne_nil b more) hmore).1 hrest⟩
      · rintro ⟨rest, rfl, -, hrest⟩
        rw [(ih (List.cons_ne_nil b more) hmore).2 hrest]

theorem segments_of_not_mem (h : '\\' ∉ s) : segments s = Text.fields '/' s := by
  have hsame : (s.map fun c => if c == '\\' then '/' else c) = s := by
    refine (List.map_congr_left fun c hc => if_neg fun heq => h ?_).trans (List.map_id' s)
    rwa [← beq_iff_eq.1 heq]
  unfold segments
  rw [hsame]

theorem not_mem_of_mem_segments {seg : List Char} (h : seg ∈ segments s) : '/' ∉ seg ∧ '\\' ∉ seg := by
  refine ⟨Text.not_mem_of_mem_fields h, fun hmem => ?_⟩
  obtain ⟨c, -, hc⟩ := List.mem_map.1 (Text.mem_of_mem_fields h hmem)
  split at hc
  · cases hc
  · next hne => exact hne (beq_iff_eq.2 hc)

/-- The path is one of settled segments with slashes between them. -/
structure IsSettledPath (s : List Char) : Prop where
  slashes : '\\' ∉ s
  segments : ∀ seg ∈ Text.fields '/' s, IsSettledSegment seg

theorem pathOf_resolve_eq_iff : pathOf (resolve [] (segments s)) = '/' :: s ↔ IsSettledPath s := by
  have hne : segments s ≠ [] := Text.fields_ne_nil '/' _
  have hsigns : ∀ seg ∈ resolve [] (segments s), '/' ∉ seg ∧ '\\' ∉ seg := by
    refine forall_mem_resolve ⟨List.not_mem_nil, List.not_mem_nil⟩ nofun fun seg hseg => ?_
    obtain ⟨hslash, hback⟩ := not_mem_of_mem_segments hseg
    have hescape : ∀ {c}, c ∉ seg → isEscapeChar c = false → c ∉ escape escapedInPath seg := by
      intro c hc hsign hmem
      rcases mem_escape hmem with h | h
      · exact hc h.1
      · rw [hsign] at h
        cases h
    exact ⟨hescape hslash (by decide), hescape hback (by decide)⟩
  have hcut : pathOf (resolve [] (segments s)) = '/' :: s ↔
      Text.fields '/' s = (resolve [] (segments s)).reverse :=
    flatMap_eq_iff (by simpa using resolve_ne_nil [] hne) fun seg hseg =>
      (hsigns seg (List.mem_reverse.1 hseg)).1
  have hstay : resolve [] (Text.fields '/' s) = (Text.fields '/' s).reverse ++ [] ↔
      (∀ seg ∈ Text.fields '/' s, IsSettledSegment seg) ∧ [] = [] :=
    resolve_eq_iff rfl (Text.fields_ne_nil '/' s)
  constructor
  · intro h
    have hback : '\\' ∉ s := by
      intro hmem
      have hin : '\\' ∈ pathOf (resolve [] (segments s)) := h ▸ List.mem_cons_of_mem '/' hmem
      obtain ⟨seg, hseg, hc⟩ := List.mem_flatMap.1 hin
      rcases List.mem_cons.1 hc with hc | hc
      · cases hc
      · exact (hsigns seg (List.mem_reverse.1 hseg)).2 hc
    have hsegs := List.reverse_eq_iff.1 (hcut.1 h).symm
    rw [segments_of_not_mem hback] at hsegs
    exact ⟨hback, (hstay.1 (by rw [hsegs, List.append_nil])).1⟩
  · rintro ⟨hback, hsettled⟩
    rw [hcut, segments_of_not_mem hback, hstay.2 ⟨hsettled, rfl⟩, List.append_nil, List.reverse_reverse]

/-! ## Targets -/

/-- The path and the query are the same when they are read as part of a URL. -/
structure IsSettled (path : List Char) (query : Option String) : Prop where
  signs : ∀ c ∈ path, c ∉ ['\\', '"', '\x7b', '\x7d'] ∧ c.toNat < 0x80
  segments : ∀ seg ∈ Text.fields '/' path, dots seg ≠ ['.'] ∧ dots seg ≠ ['.', '.']
  querySigns : ∀ c ∈ (query.getD "").toList, c ≠ '\'' ∧ c.toNat < 0x80

instance (path : List Char) (query : Option String) : Decidable (IsSettled path query) :=
  decidable_of_iff
    ((path.all fun c => decide (c ∉ ['\\', '"', '\x7b', '\x7d'] ∧ c.toNat < 0x80)) = true ∧
      ((Text.fields '/' path).all fun seg => decide (dots seg ≠ ['.'] ∧ dots seg ≠ ['.', '.'])) = true ∧
      ((query.getD "").toList.all fun c => decide (c ≠ '\'' ∧ c.toNat < 0x80)) = true) <| by
    simp only [List.all_eq_true, decide_eq_true_eq]
    exact ⟨fun h => ⟨h.1, h.2.1, h.2.2⟩, fun h => ⟨h.signs, h.segments, h.querySigns⟩⟩

example : IsSettled "/images/a%20b/json".toList (some "all=1") ∧
    ¬IsSettled "/containers/x/.%2E/abc/json".toList none := by
  decide +kernel

theorem toNat_of_isPathChar (h : isPathChar c = true) : 0x20 < c.toNat ∧ c ≠ '?' ∧ c ≠ '#' := by
  refine ⟨?_, ?_, ?_⟩
  · simp only [isPathChar, Bool.or_eq_true, beq_iff_eq, Bool.and_eq_true, decide_eq_true_eq] at h
    omega
  · rintro rfl
    exact absurd h (by decide)
  · rintro rfl
    exact absurd h (by decide)

theorem toNat_of_isQueryChar (h : isQueryChar c = true) : 0x20 < c.toNat ∧ c ≠ '#' := by
  refine ⟨?_, ?_⟩
  · simp only [isQueryChar, Bool.or_eq_true, beq_iff_eq, Bool.and_eq_true, decide_eq_true_eq] at h
    omega
  · rintro rfl
    exact absurd h (by decide)

/-- In a path, quotes and braces are escaped, and all that is not ASCII. -/
theorem escapedInPath_iff (h : isPathChar c = true) :
    escapedInPath c = true ↔ c ∈ ['"', '\x7b', '\x7d'] ∨ 0x80 ≤ c.toNat := by
  have hsigns : " \"<>`#?\x7b\x7d".toList = [' ', '"', '<', '>', '`', '#', '?', '\x7b', '\x7d'] := by
    decide
  simp only [isPathChar, Bool.or_eq_true, beq_iff_eq, Bool.and_eq_true, decide_eq_true_eq] at h
  unfold escapedInPath isControl
  rw [hsigns]
  simp only [Bool.or_eq_true, decide_eq_true_eq, List.contains_iff_mem, List.mem_cons,
    List.not_mem_nil, or_false, ← Char.toNat_inj, Char.reduceToNat]
  omega

/-- In a query, apostrophes are escaped, and all that is not ASCII. -/
theorem escapedInQuery_iff (h : isQueryChar c = true) :
    escapedInQuery c = true ↔ c = '\'' ∨ 0x80 ≤ c.toNat := by
  have hsigns : " \"<>#'".toList = [' ', '"', '<', '>', '#', '\''] := by decide
  simp only [isQueryChar, Bool.or_eq_true, beq_iff_eq, Bool.and_eq_true, decide_eq_true_eq] at h
  unfold escapedInQuery isControl
  rw [hsigns]
  simp only [Bool.or_eq_true, decide_eq_true_eq, List.contains_iff_mem, List.mem_cons,
    List.not_mem_nil, or_false, ← Char.toNat_inj, Char.reduceToNat]
  omega

/-- Nothing is dropped of a text without blanks and controls. -/
theorem kept_trimmed_eq_self (h : ∀ c ∈ s, 0x20 < c.toNat) : kept (trimmed s) = s := by
  have htrimmed : trimmed s = s := by
    unfold trimmed
    have hdrop : s.reverse.dropWhile isOuter = s.reverse := by
      refine List.dropWhile_eq_self_iff.2 fun hpos houter => ?_
      have hmem := List.mem_reverse.1 (List.getElem_mem hpos)
      have hbig := h _ hmem
      have hsmall : (s.reverse[0]).toNat ≤ 0x20 := of_decide_eq_true houter
      omega
    rw [hdrop, List.reverse_reverse]
  have hkept : ∀ c ∈ s, isKept c = true := by
    intro c hc
    have hbig := h c hc
    unfold isKept
    rw [Bool.not_eq_true', Bool.or_eq_false_iff, Bool.or_eq_false_iff]
    refine ⟨⟨?_, ?_⟩, ?_⟩ <;>
    · refine beq_false_of_ne ?_
      rintro rfl
      revert hbig
      decide
  rw [htrimmed]
  exact List.filter_eq_self.2 hkept

theorem pathAndQuery_of_authority? {scheme : String} {u : Url} (h : authority? scheme s = some u) :
    (u.path, u.query) = pathAndQuery [] (s.dropWhile fun c => !isEnd c) := by
  unfold authority? at h
  extract_lets isEnd whole at h
  cases hhost : hostAndPort? scheme (behindUser whole) with
  | none =>
    have hnone := authority?_eq_none hhost
    unfold authority? at hnone
    exact absurd (h.symm.trans hnone) nofun
  | some found =>
    unfold behindUser at hhost
    cases hcut : Text.cutLast '@' whole <;>
    · simp only [hcut] at h hhost
      simp only [hhost] at h
      injection h with h
      rw [← h]
      rfl

theorem cutFirst_eq_none {sep : Char} (h : sep ∉ s) : Text.cutFirst sep s = none := by
  cases hcut : Text.cutFirst sep s with
  | none => rfl
  | some cut =>
    obtain ⟨rfl, -⟩ := Text.cutFirst_eq_some_iff.1 hcut
    exact absurd (List.mem_append_right cut.1 List.mem_cons_self) h

theorem append_cons_eq_iff {sep : Char} {a b a' b' : List Char} (ha : sep ∉ a) (ha' : sep ∉ a') :
    a ++ sep :: b = a' ++ sep :: b' ↔ a = a' ∧ b = b' := by
  constructor
  · intro h
    have hcut := Text.cutFirst_eq_some_iff.2 ⟨h, ha'⟩
    rw [Text.cutFirst_eq_some_iff.2 ⟨rfl, ha⟩] at hcut
    injection hcut with hcut
    exact Prod.mk.inj hcut
  · rintro ⟨rfl, rfl⟩
    rfl

section Behind
variable {query : Option String} (hpath : ∀ c ∈ rest, isPathChar c = true)
  (hquery : ∀ c ∈ (query.getD "").toList, isQueryChar c = true)

include hpath in
theorem question_not_mem : '?' ∉ '/' :: rest := by
  intro hmem
  rcases List.mem_cons.1 hmem with h | h
  · cases h
  · exact (toNat_of_isPathChar (hpath _ h)).2.1 rfl

include hpath hquery in
theorem of_mem_behind (h : c ∈ rest ++ behindPath query) : 0x20 < c.toNat ∧ c ≠ '#' := by
  rcases List.mem_append.1 h with h | h
  · have hchar := toNat_of_isPathChar (hpath c h)
    exact ⟨hchar.1, hchar.2.2⟩
  · cases query with
    | none => cases h
    | some q =>
      rcases List.mem_cons.1 h with rfl | h
      · exact ⟨by decide, by decide⟩
      · exact toNat_of_isQueryChar (hquery c h)

include hpath hquery in
/-- Path and query of what follows a host, as long as no fragment begins in it. -/
theorem pathAndQuery_eq : pathAndQuery [] ('/' :: (rest ++ behindPath query)) =
    (pathOf (resolve [] (segments rest)), query.map fun q => escape escapedInQuery q.toList) := by
  have hwhole : ('/' :: (rest ++ behindPath query)).takeWhile (· != '#') =
      '/' :: (rest ++ behindPath query) := by
    refine List.takeWhile_eq_self_iff.2 fun c hc => bne_iff_ne.2 ?_
    rcases List.mem_cons.1 hc with rfl | hc
    · decide
    · exact (of_mem_behind hpath hquery hc).2
  have hmark := question_not_mem hpath
  unfold pathAndQuery
  rw [hwhole]
  cases query with
  | none =>
    have hempty : rest ++ behindPath none = rest := List.append_nil rest
    have hcut : Text.cutFirst '?' ('/' :: rest) = none := cutFirst_eq_none hmark
    simp only [hempty, hcut, Option.map_none]
    rfl
  | some q =>
    have hcut : Text.cutFirst '?' ('/' :: (rest ++ behindPath (some q))) = some ('/' :: rest, q.toList) :=
      Text.cutFirst_eq_some_iff.2 ⟨rfl, hmark⟩
    simp only [hcut, Option.map_some]
    rfl

omit hpath hquery in
theorem question_not_mem_pathOf (segs : List (List Char)) : '?' ∉ pathOf (resolve [] segs) := by
  have hescaped : ∀ seg ∈ resolve [] segs, '?' ∉ seg := by
    refine forall_mem_resolve List.not_mem_nil nofun fun seg _ hmem => ?_
    rcases mem_escape hmem with ⟨-, h⟩ | h <;> exact absurd h (by decide)
  intro hmem
  obtain ⟨seg, hseg, hc⟩ := List.mem_flatMap.1 hmem
  rcases List.mem_cons.1 hc with hc | hc
  · cases hc
  · exact hescaped seg (List.mem_reverse.1 hseg) hc

include hpath in
theorem isSettledPath_iff : IsSettledPath rest ↔
    (∀ c ∈ '/' :: rest, c ∉ ['\\', '"', '\x7b', '\x7d'] ∧ c.toNat < 0x80) ∧
      ∀ seg ∈ Text.fields '/' ('/' :: rest), dots seg ≠ ['.'] ∧ dots seg ≠ ['.', '.'] := by
  have hfields : Text.fields '/' ('/' :: rest) = [] :: Text.fields '/' rest := rfl
  have hsigns : ∀ c ∈ rest, (c ∉ ['\\', '"', '\x7b', '\x7d'] ∧ c.toNat < 0x80) ↔
      c ≠ '\\' ∧ escapedInPath c = false := by
    intro c hc
    rw [← Bool.not_eq_true, escapedInPath_iff (hpath c hc), List.mem_cons, not_or, not_or, Nat.not_le,
      and_assoc]
  rw [hfields, List.forall_mem_cons, List.forall_mem_cons, dots_nil]
  constructor
  · rintro ⟨hback, hsegs⟩
    refine ⟨⟨by decide, fun c hc => (hsigns c hc).2 ⟨fun heq => hback (heq ▸ hc), ?_⟩⟩, by decide,
      fun seg hseg => ⟨(hsegs seg hseg).here, (hsegs seg hseg).above⟩⟩
    by_cases hslash : c = '/'
    · rw [hslash]
      decide
    · obtain ⟨seg, hseg, hmem⟩ := Text.exists_mem_fields hc hslash
      exact (hsegs seg hseg).plain c hmem
  · rintro ⟨⟨-, hall⟩, -, hdots⟩
    refine ⟨fun hmem => ((hsigns _ hmem).1 (hall _ hmem)).1 rfl, fun seg hseg => ?_⟩
    obtain ⟨hhere, habove⟩ := hdots seg hseg
    refine ⟨hhere, habove, fun c hc => ?_⟩
    have hmem := Text.mem_of_mem_fields hseg hc
    exact ((hsigns c hmem).1 (hall c hmem)).2

include hpath hquery in
/-- What a URL makes of a path and a query is the same only if both are. -/
theorem target_eq_iff_of_parts {u : Url}
    (hparts : (u.path, u.query) =
      (pathOf (resolve [] (segments rest)), query.map fun q => escape escapedInQuery q.toList)) :
    u.target = '/' :: (rest ++ behindPath query) ↔ IsSettled ('/' :: rest) query := by
  obtain ⟨hu, hq⟩ := Prod.mk.inj hparts
  have hsigns : (∀ c ∈ (query.getD "").toList, escapedInQuery c = false) ↔
      ∀ c ∈ (query.getD "").toList, c ≠ '\'' ∧ c.toNat < 0x80 := by
    refine forall₂_congr fun c hc => ?_
    rw [← Bool.not_eq_true, escapedInQuery_iff (hquery c hc), not_or, Nat.not_le]
  have hsettled : IsSettled ('/' :: rest) query ↔
      u.path = '/' :: rest ∧ ∀ c ∈ (query.getD "").toList, escapedInQuery c = false := by
    rw [hu, pathOf_resolve_eq_iff, isSettledPath_iff hpath, hsigns]
    exact ⟨fun h => ⟨⟨h.signs, h.segments⟩, h.querySigns⟩, fun h => ⟨h.1.1, h.1.2, h.2⟩⟩
  rw [hsettled]
  unfold target
  rw [hq]
  cases query with
  | none => simp [behindPath]
  | some q =>
    have hmark : '?' ∉ u.path := hu ▸ question_not_mem_pathOf _
    have hescape : escape escapedInQuery q.toList = q.toList ↔ ∀ c ∈ q.toList, escapedInQuery c = false :=
      escape_eq_self_iff (by decide)
    rw [Option.getD_some, ← hescape]
    exact append_cons_eq_iff hmark (question_not_mem hpath)

end Behind

/-- A URL that is written as a host and a target has this target only if it is settled. -/
theorem target_eq_iff {host : List Char} {query : Option String} {text : String} {u : Url}
    (hhost : ∀ c ∈ host, isEnd c = false) (hne : kept host ≠ [])
    (hpath : ∀ c ∈ rest, isPathChar c = true) (hquery : ∀ c ∈ (query.getD "").toList, isQueryChar c = true)
    (htext : text.toList = webMark ++ host ++ '/' :: (rest ++ behindPath query))
    (hu : parse? text = some u) :
    u.target = '/' :: (rest ++ behindPath query) ↔ IsSettled ('/' :: rest) query := by
  have hbehind : kept (trimmed (rest ++ behindPath query)) = rest ++ behindPath query :=
    kept_trimmed_eq_self fun c hc => (of_mem_behind hpath hquery hc).1
  have hend : ∀ c ∈ kept host, isEnd c = false := fun c hc => hhost c (List.mem_filter.1 hc).1
  rw [parse?_eq_authority? htext, hbehind] at hu
  have hslash : (kept host ++ '/' :: (rest ++ behindPath query)).dropWhile isSlash =
      kept host ++ '/' :: (rest ++ behindPath query) := by
    obtain ⟨c, more, hcons⟩ := List.exists_cons_of_ne_nil hne
    have hc := hend c (hcons ▸ List.mem_cons_self)
    unfold isEnd at hc
    simp only [Bool.or_eq_false_iff] at hc
    rw [hcons]
    exact List.dropWhile_cons_of_neg (by simp [hc.1.1])
  have hdrop : (kept host ++ '/' :: (rest ++ behindPath query)).dropWhile (fun c => !isEnd c) =
      '/' :: (rest ++ behindPath query) := by
    rw [List.dropWhile_append_of_pos fun c hc => by rw [hend c hc]; rfl]
    exact List.dropWhile_cons_of_neg (by decide)
  rw [hslash] at hu
  have hparts := pathAndQuery_of_authority? hu
  rw [hdrop, pathAndQuery_eq hpath hquery] at hparts
  exact target_eq_iff_of_parts hpath hquery hparts

end HostFleet.Http.Url
