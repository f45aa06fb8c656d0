import HostFleet.Proofs.Route.Resolution
import HostFleet.Proofs.Text.Occurrence

/-! # Which route of a table is taken

* `IsFirst`: the first of a list that has a property, and `findSome?_eq_some_iff_isFirst`.
* `Pattern.parse_eq_exact_iff`, `Pattern.parse_eq_named_iff`: what a pattern is, from its text.
* `Declaration`: a call that adds a route; `Table.ofDeclarations`: the table of all calls in order.
* `Declaration.IsExactly`, `Declaration.Names`: how a declared route fits a path, from its text.
* `Table.resolveUnversioned?_eq_or`: the two passes over a table.
* `declared_routes_resolve_in_order`: the route that is taken, in any table.
-/

set_option autoImplicit false

namespace HostFleet.Route

/-! ## The first of a list -/

section
variable {α β : Type} {P : α → Prop} {l : List α} {f : α → Option β}

/-- The first of a list that has the property. -/
def IsFirst (P : α → Prop) (l : List α) (a : α) : Prop :=
  ∃ before after, l = before ++ a :: after ∧ P a ∧ ∀ b ∈ before, ¬P b

theorem IsFirst.mem {a : α} (h : IsFirst P l a) : a ∈ l := by
  obtain ⟨before, after, rfl, -⟩ := h
  exact List.mem_append_right before List.mem_cons_self

theorem findSome?_eq_some_iff_isFirst (hf : ∀ a ∈ l, f a = none ↔ ¬P a) {b : β} :
    l.findSome? f = some b ↔ ∃ a, IsFirst P l a ∧ f a = some b := by
  rw [List.findSome?_eq_some_iff]
  constructor
  · rintro ⟨before, a, after, rfl, ha, hbefore⟩
    have hP : P a := by
      refine Classical.not_not.1 fun hP => ?_
      rw [(hf a (by simp)).2 hP] at ha
      cases ha
    exact ⟨a, ⟨before, after, rfl, hP, fun x hx => (hf x (by simp [hx])).1 (hbefore x hx)⟩, ha⟩
  · rintro ⟨a, ⟨before, after, rfl, -, hbefore⟩, ha⟩
    exact ⟨before, a, after, rfl, ha, fun x hx => (hf x (by simp [hx])).2 (hbefore x hx)⟩

theorem findSome?_filter (p : α → Bool) (f : α → Option β) (l : List α) :
    (l.filter p).findSome? f = l.findSome? fun a => if p a then f a else none := by
  rw [← List.head?_filterMap, List.filterMap_filter, List.head?_filterMap]

end

variable {method path : String} {found : Match}

/-! ## The text of a pattern -/

namespace Pattern

variable {text : String}

theorem parse_eq_exact_iff {p : List Char} :
    parse text = exact p ↔ p = text.toList ∧ ¬placeholder <:+: text.toList := by
  unfold parse
  rw [← Text.cutAt_eq_none_iff]
  cases Text.cutAt placeholder text.toList with
  | none => simp [eq_comm]
  | some parts => simp

theorem parse_eq_named_iff {head tail : List Char} : parse text = named head tail ↔
    text.toList = head ++ placeholder ++ tail ∧
      ∀ before after, text.toList = before ++ placeholder ++ after →
        head.length ≤ before.length := by
  unfold parse
  rw [← Text.cutAt_eq_some_iff]
  cases Text.cutAt placeholder text.toList with
  | none => simp
  | some parts => simp [Prod.ext_iff]

end Pattern

/-! ## Declared routes -/

/-- A call of `Table.route`. -/
structure Declaration where
  method : String
  pattern : String
  policy : Policy
  deriving DecidableEq, Repr

namespace Declaration

/-- The route is for this very path. -/
def IsExactly (r : Declaration) (method path : String) : Prop :=
  r.method = method ∧ r.pattern = path ∧ ¬Pattern.placeholder <:+: r.pattern.toList

/-- The path is the route's pattern with the name in the first place for one. -/
def Names (r : Declaration) (method path name : String) : Prop :=
  r.method = method ∧ ∃ head tail : List Char,
    r.pattern.toList = head ++ Pattern.placeholder ++ tail ∧
    (∀ before after, r.pattern.toList = before ++ Pattern.placeholder ++ after →
      head.length ≤ before.length) ∧
    path.toList = head ++ name.toList ++ tail

/-- The entry that the call adds. -/
def entry (r : Declaration) : Entry := ⟨r.method, Pattern.parse r.pattern, r.policy⟩

variable {r : Declaration}

theorem isExactly_iff : r.IsExactly method path ↔
    r.entry.method = method ∧ r.entry.pattern = .exact path.toList := by
  unfold IsExactly entry
  rw [Pattern.parse_eq_exact_iff, String.toList_inj, eq_comm (a := path)]

theorem names_iff {name : String} : r.Names method path name ↔
    r.entry.method = method ∧ ∃ head tail, r.entry.pattern = .named head tail ∧
      path.toList = head ++ name.toList ++ tail := by
  unfold Names entry
  simp only [Pattern.parse_eq_named_iff, and_assoc]

end Declaration

namespace Table

/-- The table that the calls make, one after the other. -/
def ofDeclarations (routes : List Declaration) : Table :=
  routes.foldl (fun t r => t.route r.method r.pattern r.policy) []

theorem ofDeclarations_eq_map (routes : List Declaration) :
    ofDeclarations routes = routes.map Declaration.entry := by
  have hadded : ∀ t : Table, routes.foldl (fun t r => t.route r.method r.pattern r.policy) t =
      t ++ routes.map Declaration.entry := by
    induction routes with
    | nil => exact fun t => (List.append_nil t).symm
    | cons r routes ih =>
      intro t
      rw [List.foldl_cons, ih, route, List.append_assoc]
      rfl
  exact hadded []

/-! ## The two passes -/

/-- What the entry gives in the pass for exact patterns. -/
def exactly? (method : String) (path : List Char) (e : Entry) : Option Match :=
  if e.method == method then if e.pattern.isExact then found? path e else none else none

/-- What the entry gives in the pass for all patterns. -/
def fitting? (method : String) (path : List Char) (e : Entry) : Option Match :=
  if e.method == method then found? path e else none

theorem resolveUnversioned?_eq_or (t : Table) (method : String) (path : List Char) :
    t.resolveUnversioned? method path =
      (t.findSome? (exactly? method path)).or (t.findSome? (fitting? method path)) := by
  unfold resolveUnversioned?
  extract_lets candidates
  have hexact : (candidates.filter fun e => e.pattern.isExact).findSome? (found? path) =
      t.findSome? (exactly? method path) := by
    rw [findSome?_filter, findSome?_filter]
    rfl
  have hall : candidates.findSome? (found? path) = t.findSome? (fitting? method path) :=
    findSome?_filter _ _ t
  rw [hexact, hall]
  cases t.findSome? (exactly? method path) <;> rfl

theorem exactly?_eq_some_iff {e : Entry} {path : List Char} :
    exactly? method path e = some found ↔
      e.method = method ∧ e.pattern.isExact = true ∧ e.pattern.Fits path found.name ∧
        found.policy = e.policy := by
  unfold exactly?
  rw [Option.ite_none_right_eq_some, Option.ite_none_right_eq_some, beq_iff_eq,
    found?_eq_some_iff]

theorem fitting?_eq_some_iff {e : Entry} {path : List Char} :
    fitting? method path e = some found ↔
      e.method = method ∧ e.pattern.Fits path found.name ∧ found.policy = e.policy := by
  unfold fitting?
  rw [Option.ite_none_right_eq_some, beq_iff_eq, found?_eq_some_iff]

end Table

/-! ## From the declarations -/

namespace Declaration

variable {r : Declaration}

theorem exactly?_eq_some_iff : Table.exactly? method path.toList r.entry = some found ↔
    r.IsExactly method path ∧ found = ⟨r.policy, none⟩ := by
  obtain ⟨policy, name⟩ := found
  rw [Table.exactly?_eq_some_iff, isExactly_iff, Match.mk.injEq]
  cases r.entry.pattern with
  | exact p => grind [Pattern.Fits, Pattern.isExact, entry]
  | named head tail => simp [Pattern.isExact]

theorem fitting?_eq_some_iff : Table.fitting? method path.toList r.entry = some found ↔
    (r.IsExactly method path ∧ found = ⟨r.policy, none⟩) ∨
      ∃ name, r.Names method path name ∧ found = ⟨r.policy, some name⟩ := by
  obtain ⟨policy, name⟩ := found
  simp only [Table.fitting?_eq_some_iff, isExactly_iff, names_iff, Match.mk.injEq]
  cases r.entry.pattern with
  | exact p => grind [Pattern.Fits, entry]
  | named head tail => grind [Pattern.Fits, entry]

theorem exactly?_eq_none_iff :
    Table.exactly? method path.toList r.entry = none ↔ ¬r.IsExactly method path := by
  simp only [Option.eq_none_iff_forall_ne_some, ne_eq, exactly?_eq_some_iff, not_and]
  exact ⟨fun h hexact => h _ hexact rfl, fun h _ hexact => absurd hexact h⟩

theorem fitting?_eq_none_iff (hexact : ¬r.IsExactly method path) :
    Table.fitting? method path.toList r.entry = none ↔ ¬∃ name, r.Names method path name := by
  simp only [Option.eq_none_iff_forall_ne_some, ne_eq, fitting?_eq_some_iff, hexact, false_and,
    false_or, not_exists, not_and]
  exact ⟨fun h name hnames => h _ name hnames rfl, fun h _ name hnames => absurd hnames (h name)⟩

end Declaration

/-! ## The route that is taken -/

namespace Table

variable {routes : List Declaration}

theorem findSome?_ofDeclarations (f : Entry → Option Match) :
    (ofDeclarations routes).findSome? f = routes.findSome? fun r => f r.entry := by
  rw [ofDeclarations_eq_map, List.findSome?_map]
  rfl

theorem exactPass_eq_none_iff :
    (ofDeclarations routes).findSome? (exactly? method path.toList) = none ↔
      ∀ r ∈ routes, ¬r.IsExactly method path := by
  rw [findSome?_ofDeclarations, List.findSome?_eq_none_iff]
  exact forall₂_congr fun r _ => Declaration.exactly?_eq_none_iff

theorem exactPass_eq_some_iff :
    (ofDeclarations routes).findSome? (exactly? method path.toList) = some found ↔
      ∃ r, IsFirst (fun r => r.IsExactly method path) routes r ∧ found = ⟨r.policy, none⟩ := by
  rw [findSome?_ofDeclarations]
  refine (findSome?_eq_some_iff_isFirst fun r _ => Declaration.exactly?_eq_none_iff).trans ?_
  refine exists_congr fun r => and_congr_right fun hfirst => ?_
  obtain ⟨before, after, -, hexact, -⟩ := hfirst
  exact Declaration.exactly?_eq_some_iff.trans (and_iff_right hexact)

/-- With no exact route, the pass for all patterns is one for those with a name. -/
theorem namedPass_eq_none_iff (hexact : ∀ r ∈ routes, ¬r.IsExactly method path) :
    (ofDeclarations routes).findSome? (fitting? method path.toList) = none ↔
      ∀ r ∈ routes, ¬∃ name, r.Names method path name := by
  rw [findSome?_ofDeclarations, List.findSome?_eq_none_iff]
  exact forall₂_congr fun r hr => Declaration.fitting?_eq_none_iff (hexact r hr)

theorem namedPass_eq_some_iff (hexact : ∀ r ∈ routes, ¬r.IsExactly method path) :
    (ofDeclarations routes).findSome? (fitting? method path.toList) = some found ↔
      ∃ r, IsFirst (fun r => ∃ name, r.Names method path name) routes r ∧
        ∃ name, r.Names method path name ∧ found = ⟨r.policy, some name⟩ := by
  rw [findSome?_ofDeclarations]
  refine (findSome?_eq_some_iff_isFirst fun r hr =>
    Declaration.fitting?_eq_none_iff (hexact r hr)).trans ?_
  refine exists_congr fun r => and_congr_right fun hfirst => ?_
  exact Declaration.fitting?_eq_some_iff.trans
    (or_iff_right fun h => hexact r hfirst.mem h.1)

/-- Whatever routes were declared, a path takes the first that is for this very path, and no name; if
there is none, it takes the first whose pattern is the path with some name at its place, and just this
name. It has no route when no declared one fits. Only a path that has none as it stands is looked up
once more without the version before it. -/
theorem declared_routes_resolve_in_order (routes : List Declaration) (method path : String) :
    (∀ found, (ofDeclarations routes).resolveUnversioned? method path.toList = some found ↔
      (∃ r, IsFirst (fun r => r.IsExactly method path) routes r ∧ found = ⟨r.policy, none⟩) ∨
      (∀ r ∈ routes, ¬r.IsExactly method path) ∧
        ∃ r, IsFirst (fun r => ∃ name, r.Names method path name) routes r ∧
          ∃ name, r.Names method path name ∧ found = ⟨r.policy, some name⟩) ∧
    ((ofDeclarations routes).resolveUnversioned? method path.toList = none ↔
      ∀ r ∈ routes, ¬r.IsExactly method path ∧ ∀ name, ¬r.Names method path name) ∧
    ∀ found, (ofDeclarations routes).resolve? method path = some found ↔
      (ofDeclarations routes).resolveUnversioned? method path.toList = some found ∨
      (ofDeclarations routes).resolveUnversioned? method path.toList = none ∧
        ∃ v rest : String, IsVersion v ∧ rest.toList.head? = some '/' ∧
          path = "/v" ++ v ++ rest ∧
          (ofDeclarations routes).resolveUnversioned? method rest.toList = some found := by
  refine ⟨fun found => ?_, ?_, fun found => resolve?_eq_some_iff⟩
  · rw [resolveUnversioned?_eq_or, Option.or_eq_some_iff, exactPass_eq_some_iff,
      exactPass_eq_none_iff]
    exact or_congr_right (and_congr_right namedPass_eq_some_iff)
  · rw [resolveUnversioned?_eq_or, Option.or_eq_none_iff, exactPass_eq_none_iff,
      and_congr_right namedPass_eq_none_iff]
    simp only [not_exists, forall₂_and]

/-- An exact route is taken before one with a name that was declared earlier. -/
example : (ofDeclarations [⟨"GET", "/images/\x7bname\x7d", .byImage⟩,
    ⟨"GET", "/images/json", .listImages⟩]).resolve? "GET" "/v1.12/images/json" =
      some ⟨.listImages, none⟩ := by decide +kernel

end Table

end HostFleet.Route
