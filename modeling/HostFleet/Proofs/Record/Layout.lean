import HostFleet.Proofs.Json.Parts
import HostFleet.Record.Container

/-! # Records that keep other fields

A record has known fields, of which some may be left out, and keeps all other fields that it was read with.

* `Layout`: how records of one type are read and written.
* `Layout.read_written`, `Layout.read_render`: what is written is read as the same record again.
* `Layout.nodup_written`, `Layout.lookup_written`: it has every other field once, with the value that came
  last, and every known field at most once.
* `IsFaithful`: all of this, and `Layout.isFaithful`.
* `optional_text`, `optional_int64` and their like: how the known fields are read again.
-/

set_option autoImplicit false

namespace HostFleet

open Json (IsWhole Kept Node Parts toFields toNode)
open Json.Parts (ofField)

/-- How records of one type are read from the parts of an object, and written with their known fields first
and the others behind them. -/
structure Layout (α : Type) where
  /-- The known field that a name stands for. -/
  canonical : String → Option String
  names : List String
  build? : Nat → Parts → Option α
  known : α → List (String × Json)
  extra : α → List (String × Json)
  nodup : names.Nodup
  canonical_of_mem : ∀ name ∈ names, canonical name = some name
  sublist : ∀ x, ((known x).map Prod.fst).Sublist names
  extra?_of_build? : ∀ {depth p x}, build? depth p = some x → p.extra? depth = some (extra x)
  /-- The record is made again of its own fields. -/
  build?_again : ∀ {depth p q x}, build? depth p = some x →
    (∀ name ∈ names, q.known.lookup name = ((known x).lookup name).map toNode) →
      q.extra? depth = some (extra x) → build? depth q = some x

namespace Layout

variable {α : Type} (l : Layout α) {depth : Nat} {fields : List (Option String × Node)} {x : α}

def read (depth : Nat) : Node → Option α
  | .object fields => (Parts.ofFields? l.canonical fields).bind (l.build? depth)
  | _ => none

def written (x : α) : List (String × Json) := l.known x ++ l.extra x

theorem canonical_of_mem_known {f : String × Json} (h : f ∈ l.known x) :
    l.canonical f.1 = some f.1 :=
  l.canonical_of_mem f.1 ((l.sublist x).mem (List.mem_map_of_mem h))

theorem nodup_known (x : α) : ((l.known x).map Prod.fst).Nodup := l.nodup.sublist (l.sublist x)

theorem exists_parts (h : l.read depth (.object fields) = some x) :
    ∃ p, Parts.ofFields? l.canonical fields = some p ∧ l.build? depth p = some x :=
  Option.bind_eq_some_iff.1 h

/-- More brackets are no hindrance to a record if they are none to its parts. -/
theorem read_succ
    (hbuild : ∀ {p : Parts}, l.build? depth p = some x → l.build? (depth + 1) p = some x)
    {node : Node} (h : l.read depth node = some x) : l.read (depth + 1) node = some x := by
  cases node with
  | object fields =>
    obtain ⟨p, hp, hx⟩ := l.exists_parts h
    exact Option.bind_eq_some_iff.2 ⟨p, hp, hbuild hx⟩
  | _ => cases h

/-- A known text that comes first is what is read under its name. -/
theorem exists_parts_of_first {name : String} {text : Option String}
    (hname : l.canonical name = some name)
    (h : l.read depth (.object ((some name, .string text) :: fields)) = some x) :
    ∃ p, l.build? depth p = some x ∧ p.required name (·.string?) = text := by
  obtain ⟨p, hp, hbuild⟩ := l.exists_parts h
  exact ⟨p, hbuild, Parts.required_first hname hp _⟩

/-- The other fields of a record that was read. -/
theorem of_mem_extra (h : l.read depth (.object fields) = some x) {f : String × Json}
    (hf : f ∈ l.extra x) :
    Kept depth f.2 ∧ l.canonical f.1 = none ∧ some f.1 ∈ fields.map Prod.fst := by
  obtain ⟨p, hp, hbuild⟩ := l.exists_parts h
  obtain ⟨hkept, node, hnode⟩ := Parts.kept_of_mem_extra? (l.extra?_of_build? hbuild) hf
  obtain ⟨hother, hmem⟩ := Parts.of_mem_other hp (List.forall_mem_nil _) hnode
  refine ⟨hkept, hother, ?_⟩
  rcases hmem with hmem | hmem
  · cases hmem
  · exact List.mem_map_of_mem (f := Prod.fst) hmem

theorem sorted_extra (h : l.read depth (.object fields) = some x) :
    (l.extra x).Pairwise fun a b => a.1 < b.1 := by
  obtain ⟨p, -, hbuild⟩ := l.exists_parts h
  exact Parts.extra?_sorted (l.extra?_of_build? hbuild)

theorem ne_of_mem (h : l.read depth (.object fields) = some x) {f g : String × Json}
    (hf : f ∈ l.known x) (hg : g ∈ l.extra x) : f.1 ≠ g.1 := by
  intro heq
  have hknown := l.canonical_of_mem_known hf
  rw [heq, (l.of_mem_extra h hg).2.1] at hknown
  cases hknown

theorem nodup_written (h : l.read depth (.object fields) = some x) :
    ((l.written x).map Prod.fst).Nodup := by
  unfold written
  rw [List.map_append]
  refine List.nodup_append.2
    ⟨l.nodup_known x, Json.nodup_of_sorted (l.sorted_extra h), ?_⟩
  intro a ha b hb
  obtain ⟨f, hf, rfl⟩ := List.mem_map.1 ha
  obtain ⟨g, hg, rfl⟩ := List.mem_map.1 hb
  exact l.ne_of_mem h hf hg

/-- A record is read again from the trees of its fields. -/
theorem read_written (h : l.read depth (.object fields) = some x) :
    l.read depth (Json.object (l.written x)).toNode = some x := by
  obtain ⟨p, -, hbuild⟩ := l.exists_parts h
  have hparts := Parts.ofFields?_toFields (fun _ => l.canonical_of_mem_known) (l.nodup_known x)
    fun f hf => (l.of_mem_extra h hf).2.1
  refine Option.bind_eq_some_iff.2 ⟨_, hparts, l.build?_again hbuild ?_ ?_⟩
  · intro name hname
    have hnodup : (((l.known x).map ofField).map Prod.fst).Nodup := by
      rw [List.map_map]
      exact l.nodup_known x
    rw [Json.lookup_reverse hnodup, Parts.lookup_map_ofField]
  · have hkept : (((l.extra x).map ofField).reverse.reverse.mapM
        fun (f : String × Node) => (f.2.keep? depth).map fun v => (f.1, v)) = some (l.extra x) := by
      rw [List.reverse_reverse]
      refine Json.mapM_map_eq_some fun f hf => ?_
      have hvalue : f.2.toNode.keep? depth = some f.2 := (l.of_mem_extra h hf).1.keep?_toNode
      unfold ofField
      rw [hvalue]
      rfl
    unfold Parts.extra?
    rw [hkept, Option.map_some, Json.sortFields_of_sorted (l.sorted_extra h)]

/-- A record without other numbers than integers is read again from its text. -/
theorem read_render (h : l.read depth (.object fields) = some x)
    (hwhole : IsWhole (.object (l.written x))) :
    (Node.parse? (Bytes.ofText (Json.object (l.written x)).render)).bind (l.read depth) = some x := by
  rw [hwhole.parse?_render, Option.bind_some, l.read_written h]

/-- Every other field is written with the value that came last. -/
theorem lookup_written (h : l.read depth (.object fields) = some x) {name : String} {node : Node}
    (hname : l.canonical name = none) (hlast : fields.reverse.lookup (some name) = some node) :
    ∃ value, node.keep? depth = some value ∧ (l.written x).lookup name = some value := by
  obtain ⟨p, hp, hbuild⟩ := l.exists_parts h
  have hextra := l.extra?_of_build? hbuild
  have hother : p.other.lookup name = some node := by
    rw [Parts.lookup_other hp hname, hlast]
    rfl
  obtain ⟨before, after, hmem, -⟩ := List.lookup_eq_some_iff.1 hother
  obtain ⟨value, hvalue⟩ := Parts.exists_keep?_of_mem_other hextra (f := (name, node)) (by
    rw [hmem]
    exact List.mem_append_right _ List.mem_cons_self)
  have hnone : (l.known x).lookup name = none := by
    rw [List.lookup_eq_none_iff]
    intro f hf
    rw [bne_iff_ne]
    rintro rfl
    rw [l.canonical_of_mem_known hf] at hname
    cases hname
  refine ⟨value, hvalue, ?_⟩
  unfold written
  rw [List.lookup_append, hnone, Option.none_or, Parts.lookup_extra? hextra, hother,
    Option.bind_some, hvalue]

end Layout

/-- What is read of an object and has no other numbers than integers of 64 bits is written so that it is
read as the same again. No name is written twice; the other fields of the object are written with their
last values, and the known ones under their own names. -/
def IsFaithful {α : Type} (canonical : String → Option String) (read : Nat → Node → Option α)
    (write : α → Json) : Prop :=
  ∀ (depth : Nat) (fields : List (Option String × Node)) (x : α),
    read depth (.object fields) = some x → IsWhole (write x) →
      (Node.parse? (Bytes.ofText (write x).render)).bind (read depth) = some x ∧
      ∃ written, write x = .object written ∧ (written.map Prod.fst).Nodup ∧
        (∀ name node, canonical name = none → fields.reverse.lookup (some name) = some node →
          ∃ value, node.keep? depth = some value ∧ written.lookup name = some value) ∧
        ∀ f ∈ written, canonical f.1 = some f.1 ∨
          canonical f.1 = none ∧ some f.1 ∈ fields.map Prod.fst

theorem Layout.isFaithful {α : Type} (l : Layout α) :
    IsFaithful l.canonical l.read fun x => .object (l.written x) := by
  intro depth fields x h hwhole
  refine ⟨l.read_render h hwhole, l.written x, rfl, l.nodup_written h, ?_, ?_⟩
  · intro name node hname hlast
    exact l.lookup_written h hname hlast
  · intro f hf
    rcases List.mem_append.1 hf with hf | hf
    · exact .inl (l.canonical_of_mem_known hf)
    · exact .inr (l.of_mem_extra h hf).2

/-! ## Fields of records -/

namespace Json

open ContainerRecord.toJson (textField textsField)

variable {p : Parts} {name : String}

theorem names_textField (name text : String) :
    ((textField name text).map Prod.fst).Sublist [name] := by
  unfold textField
  split
  · exact List.nil_sublist _
  · exact .refl _

theorem names_textsField (name : String) (texts : List String) :
    ((textsField name texts).map Prod.fst).Sublist [name] := by
  unfold textsField
  split
  · exact List.nil_sublist _
  · exact .refl _

theorem lookup_textField (key name text : String) : (textField key text).lookup name =
    if name = key then if text = "" then none else some (.text text) else none := by
  unfold textField
  by_cases htext : text = ""
  · rw [if_pos (String.isEmpty_iff.2 htext), if_pos htext, ite_self, List.lookup_nil]
  · rw [if_neg (mt String.isEmpty_iff.1 htext), if_neg htext, Book.lookup_cons, List.lookup_nil]

theorem lookup_textsField (key name : String) (texts : List String) :
    (textsField key texts).lookup name =
      if name = key then if texts = [] then none else some (.array (texts.map .text)) else none := by
  unfold textsField
  by_cases htexts : texts = []
  · rw [if_pos (List.isEmpty_iff.2 htexts), if_pos htexts, ite_self, List.lookup_nil]
  · rw [if_neg (mt List.isEmpty_iff.1 htexts), if_neg htexts, Book.lookup_cons, List.lookup_nil]

/-- A text that is left out when empty is read again. -/
theorem optional_text {text : String} (h : p.known.lookup name =
    (if text = "" then none else some (Json.text text)).map toNode) :
    p.optional name "" (·.string?) = some text := by
  unfold Parts.optional
  rw [h]
  by_cases htext : text = ""
  · rw [if_pos htext, htext]
    rfl
  · rw [if_neg htext]
    rfl

/-- So is a list of texts. -/
theorem optional_texts {texts : List String} (h : p.known.lookup name =
    (if texts = [] then none else some (Json.array (texts.map .text))).map toNode) :
    p.optional name [] (·.strings?) = some texts := by
  unfold Parts.optional
  rw [h]
  by_cases htexts : texts = []
  · rw [if_pos htexts, htexts]
    rfl
  · have hread : (toNodes (texts.map .text)).mapM Node.string? = some texts := by
      rw [toNodes_eq_map, List.map_map]
      exact mapM_map_eq_some fun _ _ => rfl
    rw [if_neg htexts, Option.map_some, toNode]
    exact hread

theorem required_text {text : String} (h : p.known.lookup name = some (Json.text text).toNode) :
    p.required name (·.string?) = some text := by
  unfold Parts.required
  rw [h]
  rfl

theorem integer?_toNode {low high i : Int} (h : low ≤ i ∧ i ≤ high) :
    (ofInt i).toNode.integer? low high = some i := if_pos h

theorem bounds_of_integer? {low high i : Int} {n : Node} (h : n.integer? low high = some i) :
    low ≤ i ∧ i ≤ high := by
  unfold Node.integer? at h
  split at h
  · split at h
    · next hbounds =>
      cases h
      exact hbounds
    · cases h
  · cases h

/-- An integer that was read within its bounds is read again. -/
theorem optional_int64 {q : Parts} {i : Int} (h : p.optional name 0 (·.int64?) = some i)
    (hq : q.known.lookup name = some (ofInt i).toNode) : q.optional name 0 (·.int64?) = some i := by
  have hbounds : Decimal.minInt64 ≤ i ∧ i ≤ Decimal.maxInt64 := by
    unfold Parts.optional at h
    split at h
    · exact bounds_of_integer? h
    · cases h
      decide
  unfold Parts.optional
  rw [hq]
  exact integer?_toNode hbounds

theorem optional_nat64 {q : Parts} {n : Nat} (h : p.optional name 0 (·.nat64?) = some n)
    (hq : q.known.lookup name = some (ofInt n).toNode) : q.optional name 0 (·.nat64?) = some n := by
  have hbounds : (0 : Int) ≤ n ∧ (n : Int) ≤ Decimal.maxNat64 := by
    unfold Parts.optional at h
    split at h
    · obtain ⟨i, hi, rfl⟩ := Option.map_eq_some_iff.1 h
      have hinteger := bounds_of_integer? hi
      rw [Int.toNat_of_nonneg hinteger.1]
      exact hinteger
    · cases h
      decide
  unfold Parts.optional
  rw [hq]
  show ((ofInt n).toNode.integer? 0 Decimal.maxNat64).map Int.toNat = some n
  rw [integer?_toNode hbounds]
  rfl

end Json

end HostFleet
