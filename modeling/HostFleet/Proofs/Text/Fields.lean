import HostFleet.Text.Split

/-! # The parts between separators

* `fields_append`: a separator parts the fields before it from those behind it.
* `fields_intercalate`: lists that are joined by separators have the fields of each of them.
* `mem_fields_iff`: a field stands between two separators, where the ends count as such.
* `intercalate_fields`: the fields, joined again.
* `mem_intercalate_iff`, `exists_mem_fields`: where the elements of joined lists and of fields stand.
-/

set_option autoImplicit false

namespace HostFleet.Text

variable {α : Type} {sep : α} {s part : List α}

theorem mem_intercalate_iff {parts : List (List α)} {c : α} : c ∈ List.intercalate [sep] parts ↔
    (∃ part ∈ parts, c ∈ part) ∨ c = sep ∧ 1 < parts.length := by
  induction parts with
  | nil => simp
  | cons a parts ih =>
    cases parts with
    | nil => simp
    | cons b parts =>
      rw [List.intercalate_cons_cons, List.mem_append, List.mem_append, ih, List.mem_singleton]
      simp only [List.mem_cons, List.length_cons]
      constructor
      · rintro ((ha | rfl) | ⟨part, hpart, hc⟩ | ⟨rfl, -⟩)
        · exact .inl ⟨a, .inl rfl, ha⟩
        · exact .inr ⟨rfl, by omega⟩
        · exact .inl ⟨part, .inr hpart, hc⟩
        · exact .inr ⟨rfl, by omega⟩
      · rintro (⟨part, rfl | hpart, hc⟩ | ⟨rfl, -⟩)
        · exact .inl (.inl hc)
        · exact .inr (.inl ⟨part, hpart, hc⟩)
        · exact .inl (.inr rfl)

variable [BEq α] [LawfulBEq α]

theorem fields_append (sep : α) (a b : List α) :
    fields sep (a ++ sep :: b) = fields sep a ++ fields sep b := by
  induction a with
  | nil => exact fields_append_cons List.not_mem_nil
  | cons c a ih =>
    rw [List.cons_append, fields, fields, ih]
    split
    · rfl
    · -- the first field before the separator grows by one element
      cases ha : fields sep a with
      | nil => exact absurd ha (fields_ne_nil sep a)
      | cons f more => rfl

theorem fields_intercalate {parts : List (List α)} (h : parts ≠ []) :
    fields sep (List.intercalate [sep] parts) = parts.flatMap (fields sep) := by
  induction parts with
  | nil => exact absurd rfl h
  | cons a parts ih =>
    cases parts with
    | nil => simp
    | cons b parts =>
      rw [List.intercalate_cons_cons, List.append_assoc, List.singleton_append, fields_append,
        ih (List.cons_ne_nil b parts)]
      rfl

/-- A field has no separator, and none is missing at its ends. -/
theorem mem_fields_iff : part ∈ fields sep s ↔ sep ∉ part ∧
    ∃ before after, s = before ++ (part ++ after) ∧
      (before = [] ∨ ∃ front, before = front ++ [sep]) ∧ (after = [] ∨ ∃ back, after = sep :: back) := by
  constructor
  · intro h
    generalize hparts : fields sep s = parts at h
    induction parts generalizing s with
    | nil => cases h
    | cons first more ih =>
      obtain ⟨hfirst, hrest⟩ := of_fields_eq_cons hparts
      rcases List.mem_cons.1 h with rfl | hmem
      · refine ⟨hfirst, [], ?_⟩
        rcases hrest with ⟨-, rfl⟩ | ⟨rest, rfl, -⟩
        · exact ⟨[], by simp, .inl rfl, .inl rfl⟩
        · exact ⟨sep :: rest, rfl, .inl rfl, .inr ⟨rest, rfl⟩⟩
      · rcases hrest with ⟨rfl, -⟩ | ⟨rest, rfl, hmore⟩
        · cases hmem
        · obtain ⟨hpart, before, after, rfl, hbefore, hafter⟩ := ih hmore hmem
          refine ⟨hpart, first ++ sep :: before, after, by simp, .inr ?_, hafter⟩
          rcases hbefore with rfl | ⟨front, rfl⟩
          · exact ⟨first, rfl⟩
          · exact ⟨first ++ sep :: front, by simp⟩
  · rintro ⟨hpart, before, after, rfl, hbefore, hafter⟩
    have hend : part ∈ fields sep (part ++ after) := by
      rcases hafter with rfl | ⟨back, rfl⟩
      · rw [List.append_nil, fields_of_not_mem hpart]
        exact List.mem_singleton_self part
      · rw [fields_append_cons hpart]
        exact List.mem_cons_self
    rcases hbefore with rfl | ⟨front, rfl⟩
    · exact hend
    · rw [List.append_assoc, List.singleton_append, fields_append]
      exact List.mem_append_right _ hend

theorem not_mem_of_mem_fields (h : part ∈ fields sep s) : sep ∉ part := (mem_fields_iff.1 h).1

theorem mem_of_mem_fields {c : α} (hpart : part ∈ fields sep s) (hc : c ∈ part) : c ∈ s := by
  obtain ⟨-, before, after, rfl, -, -⟩ := mem_fields_iff.1 hpart
  exact List.mem_append_right before (List.mem_append_left after hc)

theorem intercalate_fields (sep : α) (s : List α) : List.intercalate [sep] (fields sep s) = s := by
  generalize hparts : fields sep s = parts
  induction parts generalizing s with
  | nil => exact absurd hparts (fields_ne_nil sep s)
  | cons first more ih =>
    rcases (of_fields_eq_cons hparts).2 with ⟨rfl, rfl⟩ | ⟨rest, rfl, hmore⟩
    · exact List.intercalate_singleton
    · cases more with
      | nil => exact absurd hmore (fields_ne_nil sep rest)
      | cons next more =>
        rw [List.intercalate_cons_cons, ih rest hmore, List.append_assoc, List.singleton_append]

theorem exists_mem_fields {c : α} (h : c ∈ s) (hsep : c ≠ sep) : ∃ part ∈ fields sep s, c ∈ part := by
  rw [← intercalate_fields sep s, mem_intercalate_iff] at h
  exact h.resolve_right fun hc => hsep hc.1

end HostFleet.Text
