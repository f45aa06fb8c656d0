import HostFleet.Text.Blank

/-! # Trimming

* `Pads`: white space is put before and behind a text.
* `pads_trimList`, `Pads.trimList_eq`: trimming takes off just the white space around a text.
* `trimList_eq_self_iff`: nothing is trimmed exactly if neither end is white space.
* `sameWithin_iff`: texts that differ only in the white space around them are those that are trimmed alike.
-/

set_option autoImplicit false

namespace HostFleet.Text

variable {s : List Char}

theorem isBlank_of_visible {c : Char} (hlow : 0x20 < c.toNat) (hhigh : c.toNat < 0x7F) :
    isBlank c = false := by
  simp only [isBlank, Bool.or_eq_false_iff, Bool.and_eq_false_iff, decide_eq_false_iff_not,
    beq_eq_false_iff_ne]
  omega

/-! ## White space around a text -/

/-- The text with white space before and behind it. -/
def Pads (core s : List Char) : Prop :=
  ∃ front back : List Char, (∀ c ∈ front, isBlank c = true) ∧ (∀ c ∈ back, isBlank c = true) ∧
    s = front ++ (core ++ back)

theorem isBlank_of_mem_takeWhile {c : Char} (h : c ∈ s.takeWhile isBlank) : isBlank c = true :=
  List.all_eq_true.1 (List.all_takeWhile) c h

theorem pads_trimList (s : List Char) : Pads (trimList s) s := by
  have hstart := List.takeWhile_append_dropWhile (p := isBlank) (l := s)
  have hend := List.takeWhile_append_dropWhile (p := isBlank) (l := (trimStartList s).reverse)
  have hback := congrArg List.reverse hend
  rw [List.reverse_append, List.reverse_reverse] at hback
  refine ⟨s.takeWhile isBlank, ((trimStartList s).reverse.takeWhile isBlank).reverse,
    fun c hc => isBlank_of_mem_takeWhile hc,
    fun c hc => isBlank_of_mem_takeWhile (List.mem_reverse.1 hc), ?_⟩
  unfold trimList trimEndList
  rw [hback]
  exact hstart.symm

theorem exists_append_trimList (s : List Char) : ∃ front back, s = front ++ (trimList s ++ back) := by
  obtain ⟨front, back, -, -, hs⟩ := pads_trimList s
  exact ⟨front, back, hs⟩

theorem trimStartList_append {front : List Char} (h : ∀ c ∈ front, isBlank c = true) (s : List Char) :
    trimStartList (front ++ s) = trimStartList s :=
  List.dropWhile_append_of_pos h

theorem trimEndList_append {back : List Char} (h : ∀ c ∈ back, isBlank c = true) (s : List Char) :
    trimEndList (s ++ back) = trimEndList s := by
  unfold trimEndList
  rw [List.reverse_append, List.dropWhile_append_of_pos fun c hc => h c (List.mem_reverse.1 hc)]

/-- White space around a text does not change what it is trimmed to. -/
theorem Pads.trimList_eq {core : List Char} (h : Pads core s) : trimList s = trimList core := by
  obtain ⟨front, back, hfront, hback, rfl⟩ := h
  unfold trimList
  rw [trimStartList_append hfront]
  unfold trimStartList
  rw [List.dropWhile_append]
  split
  · next hempty =>
    -- the text is white space altogether, and so is what stands behind it
    rw [List.isEmpty_iff.1 hempty, ← List.append_nil back, List.dropWhile_append_of_pos hback]
    rfl
  · rw [trimEndList_append hback]

/-! ## Texts that are trimmed already -/

theorem dropWhile_isBlank_eq_self_iff :
    s.dropWhile isBlank = s ↔ ∀ c ∈ s.head?, isBlank c = false := by
  cases s with
  | nil => exact ⟨fun _ _ hc => (nomatch hc), fun _ => rfl⟩
  | cons c s =>
    have hhead : (∀ d ∈ (c :: s).head?, isBlank d = false) ↔ isBlank c = false :=
      ⟨fun h => h c rfl, fun h d hd => Option.some.inj hd ▸ h⟩
    rw [hhead]
    constructor
    · intro h
      cases hblank : isBlank c with
      | false => rfl
      | true =>
        rw [List.dropWhile_cons_of_pos hblank] at h
        have hle := (List.dropWhile_sublist (l := s) isBlank).length_le
        rw [h, List.length_cons] at hle
        omega
    · intro hblank
      exact List.dropWhile_cons_of_neg (Bool.eq_false_iff.1 hblank)

theorem trimEndList_eq_self_iff : trimEndList s = s ↔ ∀ c ∈ s.getLast?, isBlank c = false := by
  unfold trimEndList
  rw [← List.head?_reverse, ← dropWhile_isBlank_eq_self_iff]
  constructor
  · intro h
    have hreverse := congrArg List.reverse h
    rw [List.reverse_reverse] at hreverse
    exact hreverse
  · intro h
    rw [h, List.reverse_reverse]

/-- Nothing is trimmed exactly if neither end is white space. -/
theorem trimList_eq_self_iff : trimList s = s ↔
    (∀ c ∈ s.head?, isBlank c = false) ∧ ∀ c ∈ s.getLast?, isBlank c = false := by
  constructor
  · intro h
    have hstart : trimStartList s = s := by
      refine (List.dropWhile_sublist isBlank).eq_of_length_le ?_
      have hle : (trimEndList (trimStartList s)).length ≤ (trimStartList s).length := by
        have hlength := (List.dropWhile_sublist (l := (trimStartList s).reverse) isBlank).length_le
        rw [List.length_reverse] at hlength
        unfold trimEndList
        rw [List.length_reverse]
        exact hlength
      have hlength := congrArg List.length h
      unfold trimList at hlength
      rw [hlength] at hle
      exact hle
    have hend : trimEndList s = s := by
      unfold trimList at h
      rw [hstart] at h
      exact h
    exact ⟨dropWhile_isBlank_eq_self_iff.1 hstart, trimEndList_eq_self_iff.1 hend⟩
  · rintro ⟨hfront, hback⟩
    have hstart : trimStartList s = s := dropWhile_isBlank_eq_self_iff.2 hfront
    unfold trimList
    rw [hstart]
    exact trimEndList_eq_self_iff.2 hback

theorem trimList_of_forall_not_blank (h : ∀ c ∈ s, isBlank c = false) : trimList s = s :=
  trimList_eq_self_iff.2
    ⟨fun c hc => h c (List.mem_of_mem_head? hc), fun c hc => h c (List.mem_of_mem_getLast? hc)⟩

/-! ## Texts that differ only around -/

/-- The same text with white space before and behind it, or without. -/
def SameWithin (s t : String) : Prop := ∃ core, Pads core s.toList ∧ Pads core t.toList

/-- Texts that differ only in the white space around them are those that are trimmed alike. -/
theorem sameWithin_iff {s t : String} : SameWithin s t ↔ trim s = trim t := by
  constructor
  · rintro ⟨core, hs, ht⟩
    unfold trim
    rw [hs.trimList_eq, ht.trimList_eq]
  · intro h
    have hlist : trimList s.toList = trimList t.toList := by
      have htoList := congrArg String.toList h
      unfold trim at htoList
      rwa [String.toList_ofList, String.toList_ofList] at htoList
    exact ⟨trimList s.toList, pads_trimList _, hlist ▸ pads_trimList _⟩

instance (s t : String) : Decidable (SameWithin s t) := decidable_of_iff _ sameWithin_iff.symm

end HostFleet.Text
