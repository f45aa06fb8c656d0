import HostFleet.Json.Parts
import HostFleet.Proofs.Json.Whole

/-! # The parts of an object

What becomes of the fields of an object when it is read as a record, and what the fields of a written
record are read as.

* `add_eq_some`: one field.
* `lookup_known`, `lookup_other`, `of_mem_other`: the known fields and the others of an object.
* `extra?_sorted`, `lookup_extra?`, `kept_of_mem_extra?`: the values that are kept of the others.
* `ofFields?_toFields`: the known fields of a record and then the others are read as just that.
-/

set_option autoImplicit false

namespace HostFleet.Json

/-! ## Parts of an object -/

namespace Parts

variable {canonical : String → Option String} {fields : List (Option String × Node)} {p q : Parts}

/-- A field is either one of the others, or a known one that was not there yet. -/
theorem add_eq_some {field : Option String × Node} (h : p.add canonical field = some q) :
    ∃ name, field.1 = some name ∧
      ((canonical name = none ∧ q = { p with other := (name, field.2) :: p.other }) ∨
        ∃ known, canonical name = some known ∧ p.known.lookup known = none ∧
          q = { p with known := (known, field.2) :: p.known }) := by
  obtain ⟨name, hname, h⟩ := Option.bind_eq_some_iff.1 h
  refine ⟨name, hname, ?_⟩
  split at h
  · next known hknown =>
    split at h
    · cases h
    · next hnew =>
      injection h with h
      refine .inr ⟨known, hknown, ?_, h.symm⟩
      rw [Bool.not_eq_true, Option.isSome_eq_false_iff, Option.isNone_iff_eq_none] at hnew
      exact hnew
  · next hother =>
    injection h with h
    exact .inl ⟨hother, h.symm⟩

theorem foldlM_cons_eq_some {field : Option String × Node}
    (h : (field :: fields).foldlM (add canonical) p = some q) :
    ∃ p', p.add canonical field = some p' ∧ fields.foldlM (add canonical) p' = some q := by
  rw [List.foldlM_cons] at h
  exact Option.bind_eq_some_iff.1 h

/-- A known field stays as it was read first. -/
theorem lookup_known (h : fields.foldlM (add canonical) p = some q) {name : String} {node : Node}
    (hnode : p.known.lookup name = some node) : q.known.lookup name = some node := by
  induction fields generalizing p with
  | nil =>
    cases h
    exact hnode
  | cons field fields ih =>
    obtain ⟨p', hadd, hmore⟩ := foldlM_cons_eq_some h
    refine ih hmore ?_
    obtain ⟨key, -, ⟨-, rfl⟩ | ⟨known, -, hnew, rfl⟩⟩ := add_eq_some hadd
    · exact hnode
    · have hne : name ≠ known := by
        rintro rfl
        rw [hnew] at hnode
        cases hnode
      rw [Book.lookup_cons, if_neg hne]
      exact hnode

theorem required_first {α : Type} {name : String} {node : Node} (hname : canonical name = some name)
    (h : ofFields? canonical ((some name, node) :: fields) = some p) (read : Node → Option α) :
    p.required name read = read node := by
  obtain ⟨first, hadd, hmore⟩ := foldlM_cons_eq_some h
  have hfirst : first.known.lookup name = some node := by
    obtain ⟨key, hkey, ⟨hother, -⟩ | ⟨known, hknown, -, rfl⟩⟩ := add_eq_some hadd
    · obtain rfl := Option.some.inj hkey
      rw [hname] at hother
      cases hother
    · obtain rfl := Option.some.inj hkey
      obtain rfl := Option.some.inj (hname.symm.trans hknown)
      rw [Book.lookup_cons, if_pos rfl]
  unfold required
  rw [lookup_known hmore hfirst, Option.bind_some]

/-- Of the other fields the last of a name is found first. -/
theorem lookup_other (h : fields.foldlM (add canonical) p = some q) {name : String}
    (hname : canonical name = none) :
    q.other.lookup name = (fields.reverse.lookup (some name)).or (p.other.lookup name) := by
  induction fields generalizing p with
  | nil =>
    cases h
    rfl
  | cons field fields ih =>
    obtain ⟨p', hadd, hmore⟩ := foldlM_cons_eq_some h
    obtain ⟨key, hkey, hp'⟩ := add_eq_some hadd
    have hsingle : [field].lookup (some name) = if name = key then some field.2 else none := by
      rw [List.lookup_cons, hkey]
      by_cases heq : name = key
      · rw [heq, beq_self_eq_true, if_pos rfl]
      · rw [beq_false_of_ne fun hsome => heq (Option.some.inj hsome), if_neg heq]
        rfl
    rw [ih hmore, List.reverse_cons, List.lookup_append, hsingle, Option.or_assoc]
    obtain ⟨-, rfl⟩ | ⟨known, hknown, -, rfl⟩ := hp'
    · rw [Book.lookup_cons]
      by_cases heq : name = key
      · rw [if_pos heq, if_pos heq]
        rfl
      · rw [if_neg heq, if_neg heq]
        rfl
    · have hne : name ≠ key := by
        rintro rfl
        rw [hname] at hknown
        cases hknown
      rw [if_neg hne]
      rfl

/-- The other fields are fields of the object that are not known. -/
theorem of_mem_other (h : fields.foldlM (add canonical) p = some q)
    (hp : ∀ f ∈ p.other, canonical f.1 = none) {f : String × Node} (hf : f ∈ q.other) :
    canonical f.1 = none ∧ (f ∈ p.other ∨ (some f.1, f.2) ∈ fields) := by
  induction fields generalizing p with
  | nil =>
    cases h
    exact ⟨hp f hf, .inl hf⟩
  | cons field fields ih =>
    obtain ⟨p', hadd, hmore⟩ := foldlM_cons_eq_some h
    obtain ⟨key, hkey, ⟨hother, rfl⟩ | ⟨known, -, -, rfl⟩⟩ := add_eq_some hadd
    · have hp' : ∀ f ∈ (key, field.2) :: p.other, canonical f.1 = none :=
        List.forall_mem_cons.2 ⟨hother, hp⟩
      obtain ⟨hnone, hmem⟩ := ih hmore hp'
      refine ⟨hnone, ?_⟩
      rcases hmem with hmem | hmem
      · rcases List.mem_cons.1 hmem with rfl | hmem
        · right
          rw [← hkey]
          exact List.mem_cons_self
        · exact .inl hmem
      · exact .inr (List.mem_cons_of_mem field hmem)
    · obtain ⟨hnone, hmem⟩ := ih hmore hp
      exact ⟨hnone, hmem.imp_right (List.mem_cons_of_mem field)⟩

/-! ### Kept fields -/

theorem lookup_kept {depth : Nat} {other : List (String × Node)} {kept : List (String × Json)}
    (h : other.map (fun f => (f.2.keep? depth).map fun v => (f.1, v)) = kept.map some)
    (name : String) : kept.lookup name = (other.lookup name).bind (Node.keep? depth) := by
  induction other generalizing kept with
  | nil =>
    cases kept with
    | nil => rfl
    | cons x kept => cases h
  | cons f other ih =>
    cases kept with
    | nil => cases h
    | cons x kept =>
      obtain ⟨k, v⟩ := x
      injection h with hf hother
      obtain ⟨value, hvalue, heq⟩ := Option.map_eq_some_iff.1 hf
      injection heq with hk hv
      subst hk hv
      rw [Book.lookup_cons, ih hother]
      have hlookup : (f :: other).lookup name = if name = f.1 then some f.2 else other.lookup name :=
        Book.lookup_cons name f.1 f.2 other
      rw [hlookup]
      by_cases hname : name = f.1
      · rw [if_pos hname, if_pos hname, Option.bind_some, hvalue]
      · rw [if_neg hname, if_neg hname]

section Extra
variable {depth : Nat} {extra : List (String × Json)}

theorem extra?_sorted (h : p.extra? depth = some extra) :
    extra.Pairwise fun a b => a.1 < b.1 := by
  obtain ⟨kept, -, rfl⟩ := Option.map_eq_some_iff.1 h
  exact sortFields_sorted kept

/-- The values are those of the fields that come last. -/
theorem lookup_extra? (h : p.extra? depth = some extra) (name : String) :
    extra.lookup name = (p.other.lookup name).bind (Node.keep? depth) := by
  obtain ⟨kept, hkept, rfl⟩ := Option.map_eq_some_iff.1 h
  have hmap := congrArg List.reverse (mapM_eq_some_iff.1 hkept)
  rw [← List.map_reverse, List.reverse_reverse, ← List.map_reverse] at hmap
  rw [lookup_sortFields, lookup_kept hmap]

theorem kept_of_mem_extra? (h : p.extra? depth = some extra) {f : String × Json} (hf : f ∈ extra) :
    Kept depth f.2 ∧ ∃ node, (f.1, node) ∈ p.other := by
  obtain ⟨kept, hkept, rfl⟩ := Option.map_eq_some_iff.1 h
  obtain ⟨other, hother, hfield⟩ := exists_of_mem_mapM hkept (mem_of_mem_sortFields hf)
  obtain ⟨value, hvalue, rfl⟩ := Option.map_eq_some_iff.1 hfield
  exact ⟨kept_of_keep? hvalue, other.2, List.mem_reverse.1 hother⟩

theorem extra?_succ (h : p.extra? depth = some extra) : p.extra? (depth + 1) = some extra := by
  obtain ⟨kept, hkept, rfl⟩ := Option.map_eq_some_iff.1 h
  refine Option.map_eq_some_iff.2 ⟨kept, mapM_mono (fun hf => ?_) hkept, rfl⟩
  obtain ⟨value, hvalue, rfl⟩ := Option.map_eq_some_iff.1 hf
  exact Option.map_eq_some_iff.2 ⟨value, keep?_succ hvalue, rfl⟩

/-- Every other field has a value that is kept. -/
theorem exists_keep?_of_mem_other (h : p.extra? depth = some extra) {f : String × Node}
    (hf : f ∈ p.other) : ∃ value, f.2.keep? depth = some value := by
  obtain ⟨kept, hkept, -⟩ := Option.map_eq_some_iff.1 h
  have hmem : (f.2.keep? depth).map (fun v => (f.1, v)) ∈ kept.map some := by
    rw [← mapM_eq_some_iff.1 hkept]
    exact List.mem_map_of_mem (f := fun f : String × Node => (f.2.keep? depth).map fun v => (f.1, v))
      (List.mem_reverse.2 hf)
  obtain ⟨g, -, hg⟩ := List.mem_map.1 hmem
  obtain ⟨value, hvalue, -⟩ := Option.map_eq_some_iff.1 hg.symm
  exact ⟨value, hvalue⟩

end Extra

/-! ### Written fields -/

/-- A field with the tree of its value. -/
def ofField (f : String × Json) : String × Node := (f.1, f.2.toNode)

theorem lookup_map_ofField (fields : List (String × Json)) (name : String) :
    (fields.map ofField).lookup name = (fields.lookup name).map toNode := by
  induction fields with
  | nil => rfl
  | cons f fields ih =>
    have hfield : ofField f = (f.1, f.2.toNode) := rfl
    have hlookup : (f :: fields).lookup name = if name = f.1 then some f.2 else fields.lookup name :=
      Book.lookup_cons name f.1 f.2 fields
    rw [List.map_cons, hfield, Book.lookup_cons, ih, hlookup]
    split <;> rfl

theorem foldlM_known {base : List (String × Json)}
    (hknown : ∀ f ∈ base, canonical f.1 = some f.1) (hnodup : (base.map Prod.fst).Nodup)
    (hnew : ∀ f ∈ base, p.known.lookup f.1 = none) :
    (toFields base).foldlM (add canonical) p =
      some { p with known := (base.map ofField).reverse ++ p.known } := by
  induction base generalizing p with
  | nil => rfl
  | cons f base ih =>
    obtain ⟨hf, hbase⟩ := List.forall_mem_cons.1 hknown
    obtain ⟨hfnew, hbasenew⟩ := List.forall_mem_cons.1 hnew
    rw [List.map_cons, List.nodup_cons] at hnodup
    have hadd : p.add canonical (some f.1, f.2.toNode) =
        some { p with known := (f.1, f.2.toNode) :: p.known } := by
      unfold add
      simp only [Option.bind_some, hf, hfnew, Option.isSome_none, Bool.false_eq_true, if_false]
    have hnew' : ∀ g ∈ base, ((f.1, f.2.toNode) :: p.known).lookup g.1 = none := by
      intro g hg
      have hne : g.1 ≠ f.1 := fun heq => hnodup.1 (heq ▸ List.mem_map_of_mem hg)
      rw [Book.lookup_cons, if_neg hne]
      exact hbasenew g hg
    rw [toFields, List.foldlM_cons, hadd]
    refine (ih hbase hnodup.2 hnew').trans ?_
    rw [List.map_cons, List.reverse_cons, List.append_assoc]
    rfl

theorem foldlM_other {extra : List (String × Json)} (hother : ∀ f ∈ extra, canonical f.1 = none) :
    (toFields extra).foldlM (add canonical) p =
      some { p with other := (extra.map ofField).reverse ++ p.other } := by
  induction extra generalizing p with
  | nil => rfl
  | cons f extra ih =>
    obtain ⟨hf, hextra⟩ := List.forall_mem_cons.1 hother
    have hadd : p.add canonical (some f.1, f.2.toNode) =
        some { p with other := (f.1, f.2.toNode) :: p.other } := by
      unfold add
      simp only [Option.bind_some, hf]
    rw [toFields, List.foldlM_cons, hadd]
    refine (ih hextra).trans ?_
    rw [List.map_cons, List.reverse_cons, List.append_assoc]
    rfl

theorem ofFields?_toFields {base extra : List (String × Json)}
    (hknown : ∀ f ∈ base, canonical f.1 = some f.1) (hnodup : (base.map Prod.fst).Nodup)
    (hother : ∀ f ∈ extra, canonical f.1 = none) :
    ofFields? canonical (toFields (base ++ extra)) =
      some ⟨(base.map ofField).reverse, (extra.map ofField).reverse⟩ := by
  have happend : toFields (base ++ extra) = toFields base ++ toFields extra := by
    rw [toFields_eq_map, toFields_eq_map, toFields_eq_map, List.map_append]
  have hnew : ∀ f ∈ base, ([] : List (String × Node)).lookup f.1 = none := fun _ _ => rfl
  unfold ofFields?
  rw [happend, List.foldlM_append, foldlM_known hknown hnodup hnew]
  refine (foldlM_other hother).trans ?_
  simp only [List.append_nil]

end Parts

end HostFleet.Json
