/-! # Cutting lists at a separator

* `cutFirst`, `cutLast`: the parts around the first or last place of one element.
* `cutAt`: the parts around the first place of a whole run.
* `fields`: all parts between the places of one element, never none.
* `dropHead?`, `dropTail?`: what is left without a given beginning or end.
* `cutFirst_eq_some_iff`, `cutLast_eq_some_iff`: the cuts are the only ones of their kind.
* `fields_eq_singleton_iff`, `fields_eq_cons_iff`: one part, or a part before the first separator.
* `length_fields`: there is one part more than there are separators.
-/

set_option autoImplicit false

namespace HostFleet.Text

variable {α : Type} [BEq α]

/-- The parts before and after the first `sep`. -/
def cutFirst (sep : α) (s : List α) : Option (List α × List α) :=
  match s.dropWhile (· != sep) with
  | [] => none
  | _ :: after => some (s.takeWhile (· != sep), after)

/-- The parts before and after the last `sep`. -/
def cutLast (sep : α) (s : List α) : Option (List α × List α) :=
  (cutFirst sep s.reverse).map fun (after, before) => (before.reverse, after.reverse)

theorem cutFirst_nil (sep : α) : cutFirst sep [] = none := rfl

theorem cutFirst_cons (sep c : α) (s : List α) :
    cutFirst sep (c :: s) =
      if c == sep then some ([], s)
      else (cutFirst sep s).map fun (before, after) => (c :: before, after) := by
  unfold cutFirst
  by_cases h : (c == sep) = true
  · simp [bne, h]
  · simp only [List.dropWhile_cons, List.takeWhile_cons, bne, h, Bool.not_false, if_true]
    cases s.dropWhile fun x => !(x == sep) <;> simp

theorem cutFirst_eq_some_iff [LawfulBEq α] {sep : α} {s before after : List α} :
    cutFirst sep s = some (before, after) ↔ s = before ++ sep :: after ∧ sep ∉ before := by
  induction s generalizing before with
  | nil => simp [cutFirst_nil]
  | cons c s ih =>
    rw [cutFirst_cons]
    by_cases h : c = sep
    · subst h
      cases before with
      | nil => simp
      | cons d before => simp; grind
    · have hc : (c == sep) = false := by simpa using h
      cases before with
      | nil => simp [hc]; grind
      | cons d before => simp [hc, ih]; grind

theorem cutLast_eq_some_iff [LawfulBEq α] {sep : α} {s before after : List α} :
    cutLast sep s = some (before, after) ↔ s = before ++ sep :: after ∧ sep ∉ after := by
  simp only [cutLast, Option.map_eq_some_iff, Prod.exists, Prod.mk.injEq]
  constructor
  · rintro ⟨a, b, h, rfl, rfl⟩
    obtain ⟨h, hn⟩ := cutFirst_eq_some_iff.1 h
    refine ⟨?_, by simpa using hn⟩
    rw [← List.reverse_reverse s, h]
    simp
  · rintro ⟨rfl, hn⟩
    exact ⟨after.reverse, before.reverse, cutFirst_eq_some_iff.2 ⟨by simp, by simpa using hn⟩,
      by simp, by simp⟩

/-- The rest of `s` behind `head`, when `s` starts with it. -/
def dropHead? (head s : List α) : Option (List α) :=
  if head.isPrefixOf s then some (s.drop head.length) else none

/-- The rest of `s` before `tail`, when `s` ends with it. -/
def dropTail? (tail s : List α) : Option (List α) :=
  if tail.isSuffixOf s then some (s.take (s.length - tail.length)) else none

theorem dropHead?_eq_some_iff [LawfulBEq α] {head s rest : List α} :
    dropHead? head s = some rest ↔ s = head ++ rest := by
  unfold dropHead?
  constructor
  · intro h
    split at h
    · next hhead =>
      obtain ⟨t, rfl⟩ := List.isPrefixOf_iff_prefix.1 hhead
      injection h with h
      rw [← h, List.drop_left]
    · cases h
  · rintro rfl
    rw [if_pos (List.isPrefixOf_iff_prefix.2 (List.prefix_append head rest)), List.drop_left]

theorem dropTail?_eq_some_iff [LawfulBEq α] {tail s rest : List α} :
    dropTail? tail s = some rest ↔ s = rest ++ tail := by
  have hlength : ∀ t : List α, (t ++ tail).length - tail.length = t.length := by
    intro t
    rw [List.length_append]
    omega
  unfold dropTail?
  constructor
  · intro h
    split at h
    · next htail =>
      obtain ⟨t, rfl⟩ := List.isSuffixOf_iff_suffix.1 htail
      injection h with h
      rw [← h, hlength, List.take_left]
    · cases h
  · rintro rfl
    rw [if_pos (List.isSuffixOf_iff_suffix.2 (List.suffix_append rest tail)), hlength,
      List.take_left]

/-- The parts before and after the first place where the whole of `sep` stands. -/
def cutAt (sep : List α) : List α → Option (List α × List α)
  | [] => if sep.isEmpty then some ([], []) else none
  | c :: s =>
    match dropHead? sep (c :: s) with
    | some after => some ([], after)
    | none => (cutAt sep s).map fun (before, after) => (c :: before, after)

/-- Does `part` stand somewhere in `s`? -/
def contains (part s : List α) : Bool := (cutAt part s).isSome

/-- The parts between the separators; a list without a separator is one part. -/
def fields (sep : α) : List α → List (List α)
  | [] => [[]]
  | c :: s =>
    if c == sep then [] :: fields sep s
    else match fields sep s with
      | [] => [[c]]
      | f :: more => (c :: f) :: more

theorem fields_ne_nil (sep : α) (s : List α) : fields sep s ≠ [] := by
  cases s with
  | nil => simp [fields]
  | cons c s =>
    simp only [fields]
    split
    · simp
    · split <;> simp

theorem fields_of_not_mem [LawfulBEq α] {sep : α} {s : List α} (h : sep ∉ s) :
    fields sep s = [s] := by
  induction s with
  | nil => rfl
  | cons c s ih =>
    have hc : (c == sep) = false := beq_false_of_ne fun heq => h (heq ▸ List.mem_cons_self)
    unfold fields
    rw [hc, ih fun hs => h (List.mem_cons_of_mem c hs)]
    rfl

theorem fields_append_cons [LawfulBEq α] {sep : α} {a s : List α} (h : sep ∉ a) :
    fields sep (a ++ sep :: s) = a :: fields sep s := by
  induction a with
  | nil =>
    rw [List.nil_append, fields, beq_self_eq_true, if_pos rfl]
  | cons c a ih =>
    have hc : (c == sep) = false := beq_false_of_ne fun heq => h (heq ▸ List.mem_cons_self)
    rw [List.cons_append, fields, hc, ih fun ha => h (List.mem_cons_of_mem c ha)]
    rfl

/-- The first part is what stands before the first separator, or all there is. -/
theorem of_fields_eq_cons [LawfulBEq α] {sep : α} {s a : List α} {more : List (List α)}
    (h : fields sep s = a :: more) :
    sep ∉ a ∧ (more = [] ∧ s = a ∨ ∃ rest, s = a ++ sep :: rest ∧ fields sep rest = more) := by
  induction s generalizing a more with
  | nil =>
    injection h with ha hmore
    subst ha
    exact ⟨List.not_mem_nil, .inl ⟨hmore.symm, rfl⟩⟩
  | cons c s ih =>
    unfold fields at h
    split at h
    · next hc =>
      injection h with ha hmore
      subst ha
      exact ⟨List.not_mem_nil, .inr ⟨s, by rw [beq_iff_eq.1 hc, List.nil_append], hmore⟩⟩
    · next hc =>
      cases hs : fields sep s with
      | nil => exact absurd hs (fields_ne_nil sep s)
      | cons f parts =>
        rw [hs] at h
        injection h with ha hmore
        subst ha hmore
        obtain ⟨hf, hrest⟩ := ih hs
        have hne : sep ≠ c := fun heq => hc (beq_iff_eq.2 heq.symm)
        refine ⟨List.not_mem_cons_of_ne_of_not_mem hne hf, ?_⟩
        rcases hrest with ⟨hmore, rfl⟩ | ⟨rest, rfl, hmore⟩
        · exact .inl ⟨hmore, rfl⟩
        · exact .inr ⟨rest, rfl, hmore⟩

theorem fields_eq_singleton_iff [LawfulBEq α] {sep : α} {s a : List α} :
    fields sep s = [a] ↔ s = a ∧ sep ∉ a := by
  constructor
  · intro h
    obtain ⟨ha, ⟨-, hs⟩ | ⟨rest, -, hrest⟩⟩ := of_fields_eq_cons h
    · exact ⟨hs, ha⟩
    · exact absurd hrest (fields_ne_nil sep rest)
  · rintro ⟨rfl, h⟩
    exact fields_of_not_mem h

theorem fields_eq_cons_iff [LawfulBEq α] {sep : α} {s a b : List α} {more : List (List α)} :
    fields sep s = a :: b :: more ↔
      ∃ rest, s = a ++ sep :: rest ∧ sep ∉ a ∧ fields sep rest = b :: more := by
  constructor
  · intro h
    obtain ⟨ha, ⟨hmore, -⟩ | ⟨rest, hs, hrest⟩⟩ := of_fields_eq_cons h
    · cases hmore
    · exact ⟨rest, hs, ha, hrest⟩
  · rintro ⟨rest, rfl, ha, hrest⟩
    rw [fields_append_cons ha, hrest]

theorem length_fields [LawfulBEq α] (sep : α) (s : List α) :
    (fields sep s).length = s.count sep + 1 := by
  induction s with
  | nil => rfl
  | cons c s ih =>
    unfold fields
    by_cases hc : c = sep
    · simp [hc, ih]
    · have hc' : (c == sep) = false := beq_false_of_ne hc
      rw [hc', List.count_cons_of_ne hc]
      cases hs : fields sep s with
      | nil => exact absurd hs (fields_ne_nil sep s)
      | cons f more =>
        rw [hs] at ih
        exact ih

end HostFleet.Text
