import HostFleet.Text.Split

/-! # Where a run stands in a list

* `contains_iff`: a run is found where it stands.
* `cutAt_eq_none_iff`, `cutAt_eq_some_iff`: a list is cut at the first place of the run.
* `infix_append_cons_iff`: a run does not reach across an element that it has not.
* `cutAt_append_of_not_mem`: a run is not found before its first element.
-/

set_option autoImplicit false

namespace HostFleet.Text

variable {α : Type} {part s before after : List α}

theorem infix_append_cons_iff {c : α} (hc : c ∉ part) {a b : List α} :
    part <:+: a ++ c :: b ↔ part <:+: a ∨ part <:+: b := by
  -- of a run behind `c`, nothing stands before it
  have hempty : ∀ front : List α, c ∉ front → front <+: c :: b → front = [] := by
    intro front hfront hstarts
    rcases List.prefix_cons_iff.1 hstarts with hnil | ⟨more, rfl, -⟩
    · exact hnil
    · exact absurd List.mem_cons_self hfront
  rw [List.infix_append_iff, List.infix_cons_iff]
  constructor
  · rintro (ha | (hstarts | hb) | ⟨front, rest, rfl, hsuffix, hstarts⟩)
    · exact .inl ha
    · rw [hempty part hc hstarts]
      exact .inl List.nil_infix
    · exact .inr hb
    · have hrest : rest = [] :=
        hempty rest (fun hmem => hc (List.mem_append_right front hmem)) hstarts
      rw [hrest, List.append_nil]
      exact .inl hsuffix.isInfix
  · rintro (ha | hb)
    · exact .inl ha
    · exact .inr (.inl (.inr hb))

variable [BEq α] [LawfulBEq α]

theorem dropHead?_eq_none_iff : dropHead? part s = none ↔ ¬part <+: s := by
  unfold dropHead?
  rw [← List.isPrefixOf_iff_prefix]
  split <;> simp_all

theorem cutAt_eq_none_iff : cutAt part s = none ↔ ¬part <:+: s := by
  induction s with
  | nil =>
    unfold cutAt
    rw [List.infix_nil]
    cases part <;> simp
  | cons c s ih =>
    unfold cutAt
    rw [List.infix_cons_iff, not_or, ← ih]
    cases hhead : dropHead? part (c :: s) with
    | none => simp [dropHead?_eq_none_iff.1 hhead]
    | some rest =>
      have hstarts : part <+: c :: s := ⟨rest, (dropHead?_eq_some_iff.1 hhead).symm⟩
      simp [hstarts]

theorem contains_iff : contains part s = true ↔ part <:+: s := by
  unfold contains
  rw [Option.isSome_iff_ne_none, ne_eq, cutAt_eq_none_iff, Classical.not_not]

/-- The cut is at the place of the run with the shortest text before it. -/
theorem cutAt_eq_some_iff : cutAt part s = some (before, after) ↔
    s = before ++ part ++ after ∧ ∀ b a, s = b ++ part ++ a → before.length ≤ b.length := by
  induction s generalizing before with
  | nil =>
    unfold cutAt
    cases part with
    | nil =>
      constructor
      · intro h
        cases h
        exact ⟨rfl, fun b a _ => Nat.zero_le b.length⟩
      · rintro ⟨hparts, -⟩
        rw [List.append_nil] at hparts
        obtain ⟨rfl, rfl⟩ := List.append_eq_nil_iff.1 hparts.symm
        rfl
    | cons d part => simp
  | cons c s ih =>
    unfold cutAt
    cases hhead : dropHead? part (c :: s) with
    | some rest =>
      have hs : c :: s = [] ++ part ++ rest := dropHead?_eq_some_iff.1 hhead
      constructor
      · intro h
        cases h
        exact ⟨hs, fun b a _ => Nat.zero_le b.length⟩
      · rintro ⟨hparts, hfirst⟩
        have hbefore : before = [] := List.length_eq_zero_iff.1 (Nat.le_zero.1 (hfirst [] rest hs))
        subst hbefore
        have hafter : rest = after := List.append_cancel_left (hs.symm.trans hparts)
        rw [hafter]
    | none =>
      -- the run does not stand at the very beginning, so each text before it begins with `c`
      have hcons : ∀ b a, c :: s = b ++ part ++ a → ∃ b', b = c :: b' ∧ s = b' ++ part ++ a := by
        intro b a h
        cases b with
        | nil => exact absurd ⟨a, h.symm⟩ (dropHead?_eq_none_iff.1 hhead)
        | cons d b' =>
          injection h with hd hs
          exact ⟨b', by rw [hd], hs⟩
      simp only [Option.map_eq_some_iff, Prod.exists, Prod.mk.injEq]
      constructor
      · rintro ⟨b', a', hcut, rfl, rfl⟩
        obtain ⟨hs, hfirst⟩ := ih.1 hcut
        refine ⟨by rw [hs]; rfl, fun b a h => ?_⟩
        obtain ⟨b'', rfl, hs'⟩ := hcons b a h
        exact Nat.succ_le_succ (hfirst b'' a hs')
      · rintro ⟨hparts, hfirst⟩
        obtain ⟨b', rfl, hs⟩ := hcons before after hparts
        refine ⟨b', after, ih.2 ⟨hs, fun b a h => ?_⟩, rfl, rfl⟩
        have hle := hfirst (c :: b) a (by rw [h]; rfl)
        exact Nat.le_of_succ_le_succ hle

/-! ## Where a run begins -/

variable {c : α} {front : List α}

theorem cutAt_cons_of_not_prefix (h : ¬part <+: c :: s) :
    cutAt part (c :: s) = (cutAt part s).map fun cut => (c :: cut.1, cut.2) := by
  conv => lhs; unfold cutAt
  rw [dropHead?_eq_none_iff.2 h]

theorem cutAt_append_self (part s : List α) : cutAt part (part ++ s) = some ([], s) :=
  cutAt_eq_some_iff.2 ⟨rfl, fun b _ _ => Nat.zero_le b.length⟩

theorem cutAt_append_of_not_mem (h : c ∉ front) (part s : List α) :
    cutAt (c :: part) (front ++ s) =
      (cutAt (c :: part) s).map fun cut => (front ++ cut.1, cut.2) := by
  induction front with
  | nil => exact Option.map_id'.symm
  | cons d front ih =>
    have hne : ¬c :: part <+: d :: (front ++ s) := by
      intro hprefix
      have hcd := (List.cons_prefix_cons.1 hprefix).1
      exact h (hcd ▸ List.mem_cons_self)
    rw [List.cons_append, cutAt_cons_of_not_prefix hne, ih fun hmem => h (List.mem_cons_of_mem d hmem),
      Option.map_map]
    rfl

end HostFleet.Text
