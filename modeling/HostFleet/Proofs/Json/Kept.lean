import HostFleet.Book
import HostFleet.Json.Document
import HostFleet.Proofs.Json.Reread

/-! # What is kept is written and kept again

* `mapM_eq_some_iff`, `lookup_eq_some_iff`: lists of fields, read one by one and asked for a name.
* `lookup_sortFields`: of a repeated name the last value is kept.
* `Kept`: the values that a tree is kept as: not nested too deep, and with the fields of every object in
  the order of their names.
* `toNode`: the tree of a value.
* `Kept.keep?_toNode`, `kept_of_keep?`: just the trees of such values are kept as they are.
* `keep?_succ`: more brackets are no hindrance.
-/

set_option autoImplicit false

namespace HostFleet.Json

/-! ## Fields -/

section Fields
variable {α β : Type}

theorem mapM_eq_some_iff {f : α → Option β} {l : List α} {l' : List β} :
    l.mapM f = some l' ↔ l.map f = l'.map some := by
  induction l generalizing l' with
  | nil =>
    rw [List.mapM_nil, List.map_nil]
    cases l' with
    | nil => exact ⟨fun _ => rfl, fun _ => rfl⟩
    | cons b l' => exact ⟨(nomatch ·), (nomatch ·)⟩
  | cons a l ih =>
    rw [List.mapM_cons, List.map_cons]
    cases l' with
    | nil =>
      refine ⟨fun h => ?_, (nomatch ·)⟩
      obtain ⟨b, -, h⟩ := Option.bind_eq_some_iff.1 h
      obtain ⟨bs, -, h⟩ := Option.bind_eq_some_iff.1 h
      cases h
    | cons b l' =>
      rw [List.map_cons, List.cons.injEq, ← ih]
      constructor
      · intro h
        obtain ⟨b', hb, h⟩ := Option.bind_eq_some_iff.1 h
        obtain ⟨bs, hbs, h⟩ := Option.bind_eq_some_iff.1 h
        injection h with h
        injection h with h h'
        subst h h'
        exact ⟨hb, hbs⟩
      · rintro ⟨hb, hbs⟩
        rw [hb, hbs]
        rfl

theorem mapM_map_eq_some {f : α → Option β} {g : β → α} {l : List β}
    (h : ∀ b ∈ l, f (g b) = some b) : (l.map g).mapM f = some l := by
  rw [mapM_eq_some_iff, List.map_map]
  exact List.map_congr_left h

/-- What is read item by item is read so by whatever reads no item otherwise. -/
theorem mapM_mono {f g : α → Option β} (hfg : ∀ {a b}, f a = some b → g a = some b) {l : List α}
    {l' : List β} (h : l.mapM f = some l') : l.mapM g = some l' := by
  induction l generalizing l' with
  | nil => exact h
  | cons a l ih =>
    rw [List.mapM_cons] at h ⊢
    obtain ⟨b, hb, h⟩ := Option.bind_eq_some_iff.1 h
    obtain ⟨bs, hbs, h⟩ := Option.bind_eq_some_iff.1 h
    rw [hfg hb, ih hbs]
    exact h

theorem exists_of_mem_mapM {f : α → Option β} {l : List α} {l' : List β} (h : l.mapM f = some l')
    {b : β} (hb : b ∈ l') : ∃ a ∈ l, f a = some b := by
  have hmem : some b ∈ l.map f := by
    rw [mapM_eq_some_iff.1 h]
    exact List.mem_map_of_mem hb
  exact List.mem_map.1 hmem

theorem exists_mem_of_mapM {f : α → Option β} {l : List α} {l' : List β} (h : l.mapM f = some l')
    {a : α} (ha : a ∈ l) : ∃ b ∈ l', f a = some b := by
  have hmem : f a ∈ l'.map some := by
    rw [← mapM_eq_some_iff.1 h]
    exact List.mem_map_of_mem ha
  obtain ⟨b, hb, heq⟩ := List.mem_map.1 hmem
  exact ⟨b, hb, heq.symm⟩

theorem lookup_eq_some_iff {l : List (String × α)} (h : (l.map Prod.fst).Nodup) {name : String}
    {value : α} : l.lookup name = some value ↔ (name, value) ∈ l := by
  induction l with
  | nil => exact ⟨(nomatch ·), (nomatch ·)⟩
  | cons x l ih =>
    obtain ⟨k, v⟩ := x
    rw [List.map_cons, List.nodup_cons] at h
    rw [Book.lookup_cons, List.mem_cons, Prod.mk.injEq]
    by_cases hname : name = k
    · subst hname
      have hother : (name, value) ∉ l := by
        intro hmem
        have hname := List.mem_map_of_mem (f := Prod.fst) hmem
        exact h.1 hname
      rw [if_pos rfl, Option.some.injEq]
      constructor
      · intro hv
        exact .inl ⟨rfl, hv.symm⟩
      · rintro (⟨-, hv⟩ | hmem)
        · exact hv.symm
        · exact absurd hmem hother
    · rw [if_neg hname, ih h.2]
      exact ⟨.inr, fun hmem => hmem.resolve_left fun heq => hname heq.1⟩

theorem lookup_reverse {l : List (String × α)} (h : (l.map Prod.fst).Nodup) (name : String) :
    l.reverse.lookup name = l.lookup name := by
  have hreverse : (l.reverse.map Prod.fst).Nodup := by
    rw [List.map_reverse]
    exact List.pairwise_reverse.2 (h.imp Ne.symm)
  refine Option.ext fun value => ?_
  rw [lookup_eq_some_iff hreverse, lookup_eq_some_iff h, List.mem_reverse]

theorem nodup_of_sorted {l : List (String × α)} (h : l.Pairwise fun a b => a.1 < b.1) :
    (l.map Prod.fst).Nodup := by
  unfold List.Nodup
  rw [List.pairwise_map]
  refine h.imp ?_
  intro a b hlt heq
  rw [heq] at hlt
  exact String.lt_irrefl _ hlt

end Fields

/-! ## Sorting -/

theorem setField_eq_place (name : String) (value : Json) (fields : List (String × Json)) :
    setField name value fields = Book.place name value fields := by
  induction fields with
  | nil => rfl
  | cons x fields ih =>
    obtain ⟨k, v⟩ := x
    unfold setField Book.place
    rw [ih]

theorem foldl_setField_sorted (fields : List (String × Json)) {acc : List (String × Json)}
    (h : acc.Pairwise fun a b => a.1 < b.1) :
    (fields.foldl (fun acc (f : String × Json) => setField f.1 f.2 acc) acc).Pairwise
      fun a b => a.1 < b.1 := by
  induction fields generalizing acc with
  | nil => exact h
  | cons x fields ih =>
    rw [List.foldl_cons, setField_eq_place]
    exact ih (Book.place_sorted _ _ h)

theorem sortFields_sorted (fields : List (String × Json)) :
    (sortFields fields).Pairwise fun a b => a.1 < b.1 :=
  foldl_setField_sorted fields .nil

/-- Of a repeated name the last value is kept. -/
theorem lookup_sortFields (fields : List (String × Json)) (name : String) :
    (sortFields fields).lookup name = fields.reverse.lookup name := by
  have hfold : ∀ acc : List (String × Json),
      (fields.foldl (fun acc (f : String × Json) => setField f.1 f.2 acc) acc).lookup name =
        (fields.reverse.lookup name).or (acc.lookup name) := by
    induction fields with
    | nil => exact fun acc => rfl
    | cons x fields ih =>
      intro acc
      obtain ⟨k, v⟩ := x
      rw [List.foldl_cons, ih, setField_eq_place, Book.lookup_place, List.reverse_cons,
        List.lookup_append, Option.or_assoc, Book.lookup_cons]
      by_cases hname : name = k
      · rw [if_pos hname, if_pos hname]
        rfl
      · rw [if_neg hname, if_neg hname]
        rfl
  have hempty := hfold []
  rw [List.lookup_nil, Option.or_none] at hempty
  exact hempty

theorem sortFields_of_sorted {fields : List (String × Json)}
    (h : fields.Pairwise fun a b => a.1 < b.1) : sortFields fields = fields := by
  refine Book.eq_of_lookup_eq (sortFields_sorted fields) h fun name => ?_
  rw [lookup_sortFields, lookup_reverse (nodup_of_sorted h)]

/-! ## Kept values -/

/-- A tree can be kept as this value where `depth` brackets are left. -/
inductive Kept : Nat → Json → Prop where
  | null (depth : Nat) : Kept depth .null
  | bool (depth : Nat) (b : Bool) : Kept depth (.bool b)
  | number (depth : Nat) (n : Number) : Kept depth (.number n)
  | text (depth : Nat) (s : String) : Kept depth (.text s)
  | array {depth : Nat} {items : List Json} (items_kept : ∀ item ∈ items, Kept depth item) :
    Kept (depth + 1) (.array items)
  | object {depth : Nat} {fields : List (String × Json)} (values : ∀ f ∈ fields, Kept depth f.2)
    (sorted : fields.Pairwise fun a b => a.1 < b.1) : Kept (depth + 1) (.object fields)

mutual

/-- The tree of a value. -/
def toNode : Json → Node
  | null => .null
  | bool b => .bool b
  | number n => .number (some n)
  | text s => .string (some s)
  | array items => .array (toNodes items)
  | object fields => .object (toFields fields)

def toNodes : List Json → List Node
  | [] => []
  | item :: items => toNode item :: toNodes items

def toFields : List (String × Json) → List (Option String × Node)
  | [] => []
  | (name, value) :: fields => (some name, toNode value) :: toFields fields

end

theorem toNodes_eq_map (items : List Json) : toNodes items = items.map toNode := by
  induction items with
  | nil => rfl
  | cons item items ih => rw [toNodes, List.map_cons, ih]

theorem toFields_eq_map (fields : List (String × Json)) :
    toFields fields = fields.map fun f => (some f.1, f.2.toNode) := by
  induction fields with
  | nil => rfl
  | cons f fields ih => rw [toFields, List.map_cons, ih]

theorem Kept.keep?_toNode {depth : Nat} {j : Json} (h : Kept depth j) :
    j.toNode.keep? depth = some j := by
  induction h with
  | null depth => simp only [toNode, Node.keep?]
  | bool depth b => simp only [toNode, Node.keep?]
  | number depth n => simp only [toNode, Node.keep?, Option.map_some]
  | text depth s => simp only [toNode, Node.keep?, Option.map_some]
  | array items_kept ih =>
    simp only [toNode, toNodes_eq_map, Node.keep?, mapM_map_eq_some ih, Option.map_some]
  | @object depth fields values sorted ih =>
    have hkept : (toFields fields).mapM (fun (f : Option String × Node) =>
        f.1.bind fun name => (f.2.keep? depth).map fun value => (name, value)) = some fields := by
      rw [toFields_eq_map]
      refine mapM_map_eq_some fun f hf => ?_
      rw [Option.bind_some, ih f hf]
      rfl
    simp only [toNode, Node.keep?, hkept, Option.map_some, sortFields_of_sorted sorted]

theorem mem_of_mem_sortFields {fields : List (String × Json)} {f : String × Json}
    (h : f ∈ sortFields fields) : f ∈ fields := by
  have hlookup := (lookup_eq_some_iff (nodup_of_sorted (sortFields_sorted fields))).2 h
  rw [lookup_sortFields] at hlookup
  obtain ⟨before, after, hfields, -⟩ := List.lookup_eq_some_iff.1 hlookup
  have hmem : (f.1, f.2) ∈ fields.reverse := by
    rw [hfields]
    exact List.mem_append_right _ List.mem_cons_self
  exact List.mem_reverse.1 hmem

theorem kept_of_keep? {depth : Nat} {n : Node} {j : Json} (h : n.keep? depth = some j) :
    Kept depth j := by
  induction depth generalizing n j with
  | zero =>
    cases n with
    | null => cases h; exact .null 0
    | bool b => cases h; exact .bool 0 b
    | number value =>
      obtain ⟨x, -, rfl⟩ := Option.map_eq_some_iff.1 h
      exact .number 0 x
    | string value =>
      obtain ⟨s, -, rfl⟩ := Option.map_eq_some_iff.1 h
      exact .text 0 s
    | array items => cases h
    | object fields => cases h
  | succ depth ih =>
    cases n with
    | null => cases h; exact .null _
    | bool b => cases h; exact .bool _ b
    | number value =>
      obtain ⟨x, -, rfl⟩ := Option.map_eq_some_iff.1 h
      exact .number _ x
    | string value =>
      obtain ⟨s, -, rfl⟩ := Option.map_eq_some_iff.1 h
      exact .text _ s
    | array items =>
      obtain ⟨kept, hkept, rfl⟩ := Option.map_eq_some_iff.1 h
      refine .array fun item hitem => ?_
      obtain ⟨node, -, hnode⟩ := exists_of_mem_mapM hkept hitem
      exact ih hnode
    | object fields =>
      obtain ⟨kept, hkept, rfl⟩ := Option.map_eq_some_iff.1 h
      refine .object (fun f hf => ?_) (sortFields_sorted kept)
      obtain ⟨node, -, hnode⟩ := exists_of_mem_mapM hkept (mem_of_mem_sortFields hf)
      obtain ⟨name, -, hnamed⟩ := Option.bind_eq_some_iff.1 hnode
      obtain ⟨value, hvalue, rfl⟩ := Option.map_eq_some_iff.1 hnamed
      exact ih hvalue

/-- What is kept where few brackets are left is kept where there are more. -/
theorem keep?_succ {depth : Nat} {n : Node} {j : Json} (h : n.keep? depth = some j) :
    n.keep? (depth + 1) = some j := by
  induction depth generalizing n j with
  | zero =>
    cases n with
    | array items => cases h
    | object fields => cases h
    | _ => exact h
  | succ depth ih =>
    cases n with
    | array items =>
      obtain ⟨kept, hkept, rfl⟩ := Option.map_eq_some_iff.1 h
      exact Option.map_eq_some_iff.2 ⟨kept, mapM_mono ih hkept, rfl⟩
    | object fields =>
      obtain ⟨kept, hkept, rfl⟩ := Option.map_eq_some_iff.1 h
      refine Option.map_eq_some_iff.2 ⟨kept, mapM_mono (fun hf => ?_) hkept, rfl⟩
      obtain ⟨name, hname, hf⟩ := Option.bind_eq_some_iff.1 hf
      obtain ⟨value, hvalue, rfl⟩ := Option.map_eq_some_iff.1 hf
      exact Option.bind_eq_some_iff.2 ⟨name, hname, Option.map_eq_some_iff.2 ⟨value, ih hvalue, rfl⟩⟩
    | _ => exact h

end HostFleet.Json
