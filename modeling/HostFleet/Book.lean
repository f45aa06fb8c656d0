/-! # Books

A book maps names to values; its entries stand in increasing order of the names, each name once.

* `Book.get?` is the view: `get?_set`, `get?_erase` and `get?_filter` say what each operation does to
  it, and `Book.ext_get?` that nothing else matters.
* `Book.toList` is the order in which a book is read out.
-/

set_option autoImplicit false

namespace HostFleet

structure Book (α : Type) where
  entries : List (String × α)
  sorted : entries.Pairwise fun a b => a.1 < b.1

namespace Book

variable {α β : Type}

instance [Repr α] : Repr (Book α) where
  reprPrec b n := reprPrec b.entries n

instance [DecidableEq α] : DecidableEq (Book α) := fun a b =>
  if h : a.entries = b.entries then
    .isTrue (by cases a; cases b; simpa using h)
  else .isFalse fun e => h (e ▸ rfl)

def empty : Book α := ⟨[], .nil⟩

instance : EmptyCollection (Book α) := ⟨empty⟩

instance : Inhabited (Book α) := ⟨empty⟩

def toList (b : Book α) : List (String × α) := b.entries

def values (b : Book α) : List α := b.entries.map (·.2)

def names (b : Book α) : List String := b.entries.map (·.1)

def size (b : Book α) : Nat := b.entries.length

/-- The value under a name. -/
def get? (b : Book α) (name : String) : Option α := b.entries.lookup name

def contains (b : Book α) (name : String) : Bool := (b.get? name).isSome

/-! ## Setting -/

/-- Puts an entry in its place, over an entry of the same name. -/
def place (name : String) (value : α) : List (String × α) → List (String × α)
  | [] => [(name, value)]
  | (k, v) :: rest =>
    if name < k then (name, value) :: (k, v) :: rest
    else if name = k then (name, value) :: rest
    else (k, v) :: place name value rest

theorem mem_place {name : String} {value : α} {e : String × α} {l : List (String × α)}
    (h : e ∈ place name value l) : e = (name, value) ∨ e ∈ l := by
  induction l with
  | nil => simpa [place] using h
  | cons x l ih =>
    obtain ⟨k, v⟩ := x
    simp only [place] at h
    split at h
    · simpa using h
    · split at h
      · rcases List.mem_cons.1 h with h | h
        · exact .inl h
        · exact .inr (List.mem_cons_of_mem _ h)
      · rcases List.mem_cons.1 h with h | h
        · exact .inr (h ▸ List.mem_cons_self)
        · exact (ih h).imp_right (List.mem_cons_of_mem _)

theorem lt_of_not_lt_of_ne {a b : String} (h : ¬a < b) (hne : a ≠ b) : b < a := by
  rcases Decidable.em (b < a) with hb | hb
  · exact hb
  · exact absurd (String.le_antisymm (String.not_lt.1 hb) (String.not_lt.1 h)) hne

theorem place_sorted (name : String) (value : α) {l : List (String × α)}
    (h : l.Pairwise fun a b => a.1 < b.1) :
    (place name value l).Pairwise fun a b => a.1 < b.1 := by
  induction l with
  | nil => simp [place]
  | cons x l ih =>
    obtain ⟨k, v⟩ := x
    have hrest : ∀ {e : String × α}, e ∈ l → k < e.1 := fun he => List.rel_of_pairwise_cons h he
    simp only [place]
    split
    · next hlt =>
      exact h.cons fun e he => (List.mem_cons.1 he).elim (fun e' => e' ▸ hlt)
        fun m => String.lt_trans hlt (hrest m)
    · next hlt =>
      split
      · next heq => exact (List.Pairwise.of_cons h).cons fun e he => heq ▸ hrest he
      · next hne =>
        exact (ih (List.Pairwise.of_cons h)).cons fun e he => (mem_place he).elim
          (fun e' => e' ▸ lt_of_not_lt_of_ne hlt hne) fun m => hrest m

/-- The book with the value under the name, in the place of what stood there. -/
def set (b : Book α) (name : String) (value : α) : Book α :=
  ⟨place name value b.entries, place_sorted name value b.sorted⟩

theorem lookup_cons (name k : String) (v : α) (l : List (String × α)) :
    ((k, v) :: l).lookup name = if name = k then some v else l.lookup name := by
  by_cases h : name = k
  · rw [List.lookup_cons, if_pos h, beq_iff_eq.2 h]
  · rw [List.lookup_cons, if_neg h, beq_false_of_ne h]

theorem lookup_place (name other : String) (value : α) (l : List (String × α)) :
    (place name value l).lookup other = if other = name then some value else l.lookup other := by
  induction l with
  | nil => simp [place, lookup_cons]
  | cons x l ih =>
    obtain ⟨k, v⟩ := x
    simp only [place]
    split
    · simp [lookup_cons]
    · split
      · next heq => subst heq; by_cases h : other = name <;> simp [lookup_cons, h]
      · next hne =>
        rw [lookup_cons, ih, lookup_cons]
        by_cases h : other = k
        · subst h
          simp [Ne.symm hne]
        · simp [h]

theorem get?_set (b : Book α) (name other : String) (value : α) :
    (b.set name value).get? other = if other = name then some value else b.get? other :=
  lookup_place name other value b.entries

/-! ## Erasing -/

/-- The entries that satisfy a condition. -/
def filter (b : Book α) (keep : String → α → Bool) : Book α :=
  ⟨b.entries.filter fun e => keep e.1 e.2, b.sorted.filter _⟩

/-- The book without the name. -/
def erase (b : Book α) (name : String) : Book α := b.filter fun k _ => k != name

theorem lookup_eq_none_of_lt {name : String} {l : List (String × α)}
    (h : ∀ e ∈ l, name < e.1) : l.lookup name = none := by
  induction l with
  | nil => rfl
  | cons x l ih =>
    obtain ⟨k, v⟩ := x
    have hk : name ≠ k := fun e => String.lt_irrefl k (by simpa [e] using h _ List.mem_cons_self)
    rw [lookup_cons, if_neg hk]
    exact ih fun e he => h e (List.mem_cons_of_mem _ he)

theorem get?_filter (b : Book α) (keep : String → α → Bool) (name : String) :
    (b.filter keep).get? name = (b.get? name).filter (keep name) := by
  obtain ⟨l, hs⟩ := b
  simp only [get?, filter]
  induction l with
  | nil => rfl
  | cons x l ih =>
    obtain ⟨k, v⟩ := x
    have ih := ih (List.Pairwise.of_cons hs)
    by_cases hk : name = k
    · subst hk
      have hnone := lookup_eq_none_of_lt fun e he => List.rel_of_pairwise_cons hs he
      by_cases hkeep : keep name v = true
      · simp [hkeep, Option.filter]
      · rw [List.filter_cons, if_neg hkeep, ih, hnone]
        simp [Option.filter, hkeep]
    · rw [lookup_cons, if_neg hk, ← ih, List.filter_cons]
      split
      · rw [lookup_cons, if_neg hk]
      · rfl

theorem get?_erase (b : Book α) (name other : String) :
    (b.erase name).get? other = if other = name then none else b.get? other := by
  rw [erase, get?_filter]
  by_cases h : other = name
  · subst h
    cases b.get? other <;> simp [Option.filter]
  · cases b.get? other <;> simp [Option.filter, h]

/-! ## Changing values -/

/-- Applies `f` to every value. -/
def map (b : Book α) (f : α → β) : Book β :=
  ⟨b.entries.map fun e => (e.1, f e.2), by
    refine List.pairwise_map.2 ?_
    exact b.sorted⟩

/-- Applies `f` to the value under a name, if there is one. -/
def update (b : Book α) (name : String) (f : α → α) : Book α :=
  match b.get? name with
  | some value => b.set name (f value)
  | none => b

theorem get?_update (b : Book α) (name other : String) (f : α → α) :
    (b.update name f).get? other =
      if other = name then (b.get? name).map f else b.get? other := by
  unfold update
  split
  · next h => rw [get?_set, h]; rfl
  · next h =>
    by_cases ho : other = name
    · subst ho
      simp [h]
    · simp [ho]

/-! ## Entries -/

theorem mem_entries_iff {l : List (String × α)} (h : l.Pairwise fun a b => a.1 < b.1)
    {name : String} {value : α} : (name, value) ∈ l ↔ l.lookup name = some value := by
  induction l with
  | nil => simp
  | cons x l ih =>
    obtain ⟨k, v⟩ := x
    have ih := ih (List.Pairwise.of_cons h)
    rw [lookup_cons]
    by_cases hk : name = k
    · subst hk
      have hnot : (name, value) ∉ l := fun hm =>
        String.lt_irrefl name (List.rel_of_pairwise_cons h hm)
      simp [hnot, eq_comm]
    · simp [hk, ih]

theorem mem_toList_iff (b : Book α) {name : String} {value : α} :
    (name, value) ∈ b.toList ↔ b.get? name = some value := mem_entries_iff b.sorted

theorem eq_of_lookup_eq {l m : List (String × α)} (hl : l.Pairwise fun a b => a.1 < b.1)
    (hm : m.Pairwise fun a b => a.1 < b.1) (h : ∀ name, l.lookup name = m.lookup name) :
    l = m := by
  induction l generalizing m with
  | nil =>
    cases m with
    | nil => rfl
    | cons y m => exact absurd (h y.1) (by simp [lookup_cons y.1 y.1 y.2 m])
  | cons x l ih =>
    obtain ⟨k, v⟩ := x
    cases m with
    | nil => exact absurd (h k) (by simp)
    | cons y m =>
      obtain ⟨k', v'⟩ := y
      have hk : k = k' := by
        have h1 := (mem_entries_iff hm).2 ((h k).symm.trans (by rw [lookup_cons, if_pos rfl]))
        have h2 := (mem_entries_iff hl).2 ((h k').trans (by rw [lookup_cons, if_pos rfl]))
        rcases List.mem_cons.1 h1 with e | h1
        · exact (Prod.mk.inj e).1
        · rcases List.mem_cons.1 h2 with e | h2
          · exact (Prod.mk.inj e).1.symm
          · exact absurd (List.rel_of_pairwise_cons hm h1)
              (String.lt_asymm (List.rel_of_pairwise_cons hl h2))
      subst hk
      have hv : v = v' := by simpa [lookup_cons] using h k
      subst hv
      refine congrArg _ (ih (List.Pairwise.of_cons hl) (List.Pairwise.of_cons hm) fun name => ?_)
      by_cases hn : name = k
      · subst hn
        rw [lookup_eq_none_of_lt fun e he => List.rel_of_pairwise_cons hl he,
          lookup_eq_none_of_lt fun e he => List.rel_of_pairwise_cons hm he]
      · simpa [lookup_cons, hn] using h name

/-- Two books with the same value under every name are the same book. -/
theorem ext_get? {a b : Book α} (h : ∀ name, a.get? name = b.get? name) : a = b := by
  obtain ⟨l, hl⟩ := a
  obtain ⟨m, hm⟩ := b
  have : l = m := eq_of_lookup_eq hl hm h
  subst this
  rfl

/-! ## Names and values -/

theorem get?_empty (name : String) : (∅ : Book α).get? name = none := rfl

theorem contains_iff {b : Book α} {name : String} :
    b.contains name = true ↔ ∃ value, b.get? name = some value := Option.isSome_iff_exists

theorem get?_map (b : Book α) (f : α → β) (name : String) :
    (b.map f).get? name = (b.get? name).map f := by
  obtain ⟨l, hs⟩ := b
  simp only [get?, map]
  clear hs
  induction l with
  | nil => rfl
  | cons x l ih =>
    rw [List.map_cons, lookup_cons, ih, lookup_cons]
    by_cases hn : name = x.1
    · rw [if_pos hn, if_pos hn]
      rfl
    · rw [if_neg hn, if_neg hn]

theorem mem_values_iff {b : Book α} {value : α} :
    value ∈ b.values ↔ ∃ name, b.get? name = some value := by
  rw [values, List.mem_map]
  constructor
  · rintro ⟨e, he, rfl⟩
    exact ⟨e.1, b.mem_toList_iff.1 he⟩
  · rintro ⟨name, h⟩
    exact ⟨(name, value), b.mem_toList_iff.2 h, rfl⟩

/-- Looking up the names of some entries gives back their values. -/
theorem filterMap_get? {b : Book α} {l : List (String × α)} (h : ∀ e ∈ l, e ∈ b.toList) :
    (l.map (·.1)).filterMap b.get? = l.map (·.2) := by
  induction l with
  | nil => rfl
  | cons e l ih =>
    have he : b.get? e.1 = some e.2 := b.mem_toList_iff.1 (h e List.mem_cons_self)
    rw [List.map_cons, List.filterMap_cons_some he,
      ih fun e' he' => h e' (List.mem_cons_of_mem e he'), List.map_cons]

theorem erase_of_get?_eq_none {b : Book α} {name : String} (h : b.get? name = none) :
    b.erase name = b := by
  refine ext_get? fun other => ?_
  rw [get?_erase]
  by_cases ho : other = name
  · rw [if_pos ho, ho, h]
  · rw [if_neg ho]

/-! ## Making a book -/

/-- The entries one after another; the last of a name wins. -/
def ofList (l : List (String × α)) : Book α := l.foldl (fun b e => b.set e.1 e.2) empty

end Book

end HostFleet
