import HostFleet.Route.Standard
import Mathlib.Data.List.Pairwise

/-! # How a path is resolved

* `Pattern.Fits`: a path is a pattern, or a name stands in it at the pattern's place for one.
* `Pattern.excludes`: a check that no path fits two patterns, and `not_fits_of_excludes`.
* `Table.IsUnambiguous`: no path fits two routes of a method; `resolveUnversioned?_eq_some_iff` and
  `resolve?_perm`: such a table gives the route that fits, in whatever order it was made.
* `stripVersion?_eq_some_iff`: a version is taken off where one stands, and only one.
* `resolve?_eq_some_iff`: when a path is looked up without its version.
* `standard_routes_are_unambiguous`: the routes of every path in the standard table.
-/

set_option autoImplicit false

namespace HostFleet.Route

variable {path : List Char} {name : Option String} {method : String} {t : Table} {found : Match}

/-! ## Patterns -/

namespace Pattern

/-- The path is the pattern, with the name in the pattern's place for it. -/
def Fits (path : List Char) (name : Option String) : Pattern → Prop
  | exact p => path = p ∧ name = none
  | named head tail => ∃ n : String, path = head ++ n.toList ++ tail ∧ name = some n

theorem matches?_eq_some_iff {p : Pattern} : p.matches? path = some name ↔ p.Fits path name := by
  cases p with
  | exact p =>
    unfold matches? Fits
    by_cases h : path = p
    · simp [h, eq_comm]
    · simp [h]
  | named head tail =>
    simp only [matches?, Fits, Option.map_eq_some_iff, Option.bind_eq_some_iff,
      Text.dropHead?_eq_some_iff, Text.dropTail?_eq_some_iff]
    constructor
    · rintro ⟨n, ⟨rest, rfl, rfl⟩, rfl⟩
      exact ⟨String.ofList n, by simp, rfl⟩
    · rintro ⟨n, rfl, rfl⟩
      exact ⟨n.toList, ⟨n.toList ++ tail, by simp, rfl⟩, by simp⟩

/-- A path has one name at most at the place for it. -/
theorem Fits.name_unique {p : Pattern} {name' : Option String} (h : p.Fits path name)
    (h' : p.Fits path name') : name' = name := by
  have hsome := matches?_eq_some_iff.2 h
  rw [matches?_eq_some_iff.2 h'] at hsome
  exact Option.some.inj hsome

/-- Are the patterns so different that no path fits both? -/
def excludes : Pattern → Pattern → Bool
  | exact p, q => (q.matches? p).isNone
  | p, exact q => (p.matches? q).isNone
  | named head tail, named head' tail' =>
    !(head.isPrefixOf head' || head'.isPrefixOf head) ||
      !(tail.isSuffixOf tail' || tail'.isSuffixOf tail)

theorem not_fits_of_excludes {p q : Pattern} {name' : Option String} (h : p.excludes q = true)
    (hp : p.Fits path name) : ¬q.Fits path name' := by
  intro hq
  cases p with
  | exact p =>
    obtain ⟨rfl, -⟩ := hp
    have hnone : (q.matches? path).isNone = true := h
    rw [matches?_eq_some_iff.2 hq] at hnone
    cases hnone
  | named head tail =>
    cases q with
    | exact q =>
      obtain ⟨rfl, -⟩ := hq
      have hnone : ((named head tail).matches? path).isNone = true := h
      rw [matches?_eq_some_iff.2 hp] at hnone
      cases hnone
    | named head' tail' =>
      obtain ⟨n, hpath, -⟩ := hp
      obtain ⟨n', hpath', -⟩ := hq
      have hhead : head <+: path := by
        rw [hpath, List.append_assoc]
        exact List.prefix_append head _
      have hhead' : head' <+: path := by
        rw [hpath', List.append_assoc]
        exact List.prefix_append head' _
      have htail : tail <:+ path := by
        rw [hpath]
        exact List.suffix_append _ tail
      have htail' : tail' <:+ path := by
        rw [hpath']
        exact List.suffix_append _ tail'
      -- two beginnings of one path agree as far as they go, and so do two ends
      have hheads := List.prefix_or_prefix_of_prefix hhead hhead'
      have htails := List.suffix_or_suffix_of_suffix htail htail'
      rw [← List.isPrefixOf_iff_prefix, ← List.isPrefixOf_iff_prefix, ← Bool.or_eq_true] at hheads
      rw [← List.isSuffixOf_iff_suffix, ← List.isSuffixOf_iff_suffix, ← Bool.or_eq_true] at htails
      simp [excludes, hheads, htails] at h

end Pattern

/-! ## Tables -/

namespace Table

/-- No path fits two routes of a method. -/
def IsUnambiguous (t : Table) : Prop :=
  t.Pairwise fun e e' => e.method = e'.method → e.pattern.excludes e'.pattern = true

instance (t : Table) : Decidable t.IsUnambiguous :=
  inferInstanceAs (Decidable (t.Pairwise fun e e' =>
    e.method = e'.method → e.pattern.excludes e'.pattern = true))

/-- The routes of a method that a path fits. -/
def fitting (t : Table) (method : String) (path : List Char) : Table :=
  t.filter fun e => e.method == method && (e.pattern.matches? path).isSome

theorem mem_fitting {e : Entry} :
    e ∈ t.fitting method path ↔ e ∈ t ∧ e.method = method ∧ ∃ name, e.pattern.Fits path name := by
  simp only [fitting, List.mem_filter, Bool.and_eq_true, beq_iff_eq, Option.isSome_iff_exists,
    Pattern.matches?_eq_some_iff]

theorem IsUnambiguous.length_fitting_le (h : t.IsUnambiguous) (method : String)
    (path : List Char) : (t.fitting method path).length ≤ 1 := by
  have hpairs : (t.fitting method path).Pairwise fun e e' =>
      e.method = e'.method → e.pattern.excludes e'.pattern = true := List.Pairwise.filter _ h
  have hmem : ∀ e ∈ t.fitting method path, e.method = method ∧ ∃ name, e.pattern.Fits path name :=
    fun e he => (mem_fitting.1 he).2
  match t.fitting method path, hpairs, hmem with
  | [], _, _ => exact Nat.zero_le 1
  | [_], _, _ => exact Nat.le_refl 1
  | e :: e' :: more, hpairs, hmem =>
    obtain ⟨hmethod, name, hfits⟩ := hmem e List.mem_cons_self
    obtain ⟨hmethod', name', hfits'⟩ := hmem e' (List.mem_cons_of_mem e List.mem_cons_self)
    have hexcludes := List.rel_of_pairwise_cons hpairs List.mem_cons_self
      (hmethod.trans hmethod'.symm)
    exact absurd hfits' (Pattern.not_fits_of_excludes hexcludes hfits)

/-- The routes that a path fits are all the same one. -/
def HasOneRoute (t : Table) : Prop :=
  ∀ method path, ∀ e ∈ t.fitting method path, ∀ e' ∈ t.fitting method path, e' = e

theorem IsUnambiguous.hasOneRoute (h : t.IsUnambiguous) : t.HasOneRoute := by
  intro method path e he e' he'
  have hlength := h.length_fitting_le method path
  generalize t.fitting method path = entries at he he' hlength
  match entries, hlength with
  | [], _ => exact absurd he List.not_mem_nil
  | [_], _ => rw [List.mem_singleton.1 he, List.mem_singleton.1 he']

theorem found?_eq_some_iff {e : Entry} :
    found? path e = some found ↔ e.pattern.Fits path found.name ∧ found.policy = e.policy := by
  obtain ⟨policy, name⟩ := found
  simp only [found?, Option.map_eq_some_iff, Pattern.matches?_eq_some_iff, Match.mk.injEq]
  constructor
  · rintro ⟨name, hfits, rfl, rfl⟩
    exact ⟨hfits, rfl⟩
  · rintro ⟨hfits, rfl⟩
    exact ⟨name, hfits, rfl, rfl⟩

/-- The path fits a route of the method, and this is what it then resolves to. -/
def Leads (t : Table) (method : String) (path : List Char) (found : Match) : Prop :=
  ∃ e ∈ t, e.method = method ∧ e.pattern.Fits path found.name ∧ found.policy = e.policy

theorem leads_of_resolveUnversioned? (h : t.resolveUnversioned? method path = some found) :
    t.Leads method path found := by
  have hentry : ∀ entries : Table, (∀ e ∈ entries, e ∈ t ∧ e.method = method) →
      entries.findSome? (found? path) = some found → t.Leads method path found := by
    intro entries hentries hfound
    obtain ⟨e, he, hfound⟩ := List.exists_of_findSome?_eq_some hfound
    obtain ⟨hmem, hmethod⟩ := hentries e he
    exact ⟨e, hmem, hmethod, found?_eq_some_iff.1 hfound⟩
  unfold resolveUnversioned? at h
  extract_lets candidates at h
  have hcandidates : ∀ e ∈ candidates, e ∈ t ∧ e.method = method := by
    intro e he
    obtain ⟨hmem, hmethod⟩ := List.mem_filter.1 he
    exact ⟨hmem, beq_iff_eq.1 hmethod⟩
  split at h
  · next hexact =>
    exact hentry _ (fun e he => hcandidates e (List.mem_filter.1 he).1) (hexact.trans h)
  · exact hentry candidates hcandidates h

theorem not_leads_of_resolveUnversioned? (h : t.resolveUnversioned? method path = none) :
    ¬t.Leads method path found := by
  rintro ⟨e, he, hmethod, hfits⟩
  unfold resolveUnversioned? at h
  extract_lets candidates at h
  split at h
  · cases h
  · have hcandidate : e ∈ candidates := List.mem_filter.2 ⟨he, beq_iff_eq.2 hmethod⟩
    have hnone := List.findSome?_eq_none_iff.1 h e hcandidate
    rw [found?_eq_some_iff.2 hfits] at hnone
    cases hnone

theorem HasOneRoute.leads_unique (h : t.HasOneRoute) {found' : Match}
    (hleads : t.Leads method path found) (hleads' : t.Leads method path found') :
    found' = found := by
  obtain ⟨e, he, hmethod, hfits, hpolicy⟩ := hleads
  obtain ⟨e', he', hmethod', hfits', hpolicy'⟩ := hleads'
  have hsame : e' = e := h method path e (mem_fitting.2 ⟨he, hmethod, _, hfits⟩) e'
    (mem_fitting.2 ⟨he', hmethod', _, hfits'⟩)
  subst hsame
  obtain ⟨policy, name⟩ := found
  obtain ⟨policy', name'⟩ := found'
  have hname : name' = name := hfits.name_unique hfits'
  have hpolicies : policy' = policy := hpolicy'.trans hpolicy.symm
  rw [hname, hpolicies]

theorem HasOneRoute.resolveUnversioned?_eq_some_iff (h : t.HasOneRoute) :
    t.resolveUnversioned? method path = some found ↔ t.Leads method path found := by
  refine ⟨leads_of_resolveUnversioned?, fun hleads => ?_⟩
  cases hresolved : t.resolveUnversioned? method path with
  | none => exact absurd hleads (not_leads_of_resolveUnversioned? hresolved)
  | some found' =>
    have hleads' := leads_of_resolveUnversioned? hresolved
    rw [h.leads_unique hleads hleads']

/-! ## In any order -/

theorem HasOneRoute.resolveUnversioned?_perm (h : t.HasOneRoute) {t' : Table}
    (hperm : List.Perm t' t) (method : String) (path : List Char) :
    t'.resolveUnversioned? method path = t.resolveUnversioned? method path := by
  have h' : t'.HasOneRoute := by
    intro method path e he e' he'
    have hfitting : List.Perm (t'.fitting method path) (t.fitting method path) := hperm.filter _
    exact h method path e (hfitting.mem_iff.1 he) e' (hfitting.mem_iff.1 he')
  refine Option.ext fun found => ?_
  rw [h.resolveUnversioned?_eq_some_iff, h'.resolveUnversioned?_eq_some_iff]
  unfold Leads
  simp only [hperm.mem_iff]

theorem HasOneRoute.resolve?_perm (h : t.HasOneRoute) {t' : Table} (hperm : List.Perm t' t)
    (method path : String) : t'.resolve? method path = t.resolve? method path := by
  have hsame := h.resolveUnversioned?_perm hperm method
  have hsame' : t'.resolveUnversioned? method = t.resolveUnversioned? method := funext hsame
  unfold resolve?
  rw [hsame']

/-! ## Versions -/

/-- One or more digits and dots. -/
def IsVersion (v : String) : Prop := v ≠ "" ∧ ∀ c ∈ v.toList, c.isDigit = true ∨ c = '.'

/-- A version stands before the rest of the path. -/
def BeginsWithVersion (path : String) : Prop :=
  ∃ v rest : String, IsVersion v ∧ rest.toList.head? = some '/' ∧ path = "/v" ++ v ++ rest

theorem isVersionChar_iff {c : Char} : isVersionChar c = true ↔ c.isDigit = true ∨ c = '.' := by
  unfold isVersionChar
  rw [Bool.or_eq_true, beq_iff_eq]
  rfl

theorem takeWhile_of_isVersion {v : String} (hv : IsVersion v) {rest : List Char}
    (hrest : rest.head? = some '/') :
    (v.toList ++ rest).takeWhile isVersionChar = v.toList ∧
      (v.toList ++ rest).dropWhile isVersionChar = rest := by
  have hall : ∀ c ∈ v.toList, isVersionChar c = true := fun c hc => isVersionChar_iff.2 (hv.2 c hc)
  cases rest with
  | nil => cases hrest
  | cons c rest =>
    injection hrest with hc
    subst hc
    have hslash : isVersionChar '/' = false := by decide
    refine ⟨?_, ?_⟩
    · rw [List.takeWhile_append_of_pos hall, List.takeWhile_cons_of_neg (by simp [hslash]),
        List.append_nil]
    · rw [List.dropWhile_append_of_pos hall, List.dropWhile_cons_of_neg (by simp [hslash])]

/-- What is left is the path behind the one version that stands before it. -/
theorem stripVersion?_eq_some_iff {rest : List Char} :
    stripVersion? path = some rest ↔ ∃ v : String, IsVersion v ∧ rest.head? = some '/' ∧
      path = '/' :: 'v' :: (v.toList ++ rest) := by
  constructor
  · intro h
    unfold stripVersion? at h
    split at h
    · next behind =>
      extract_lets version at h
      split at h
      · next path hdrop =>
        split at h
        · cases h
        · next hne =>
          injection h with h
          subst h
          refine ⟨String.ofList version, ⟨?_, ?_⟩, rfl, ?_⟩
          · intro hempty
            refine hne ?_
            rw [List.isEmpty_iff, ← String.toList_ofList (l := version), hempty]
            rfl
          · intro c hc
            rw [String.toList_ofList] at hc
            exact isVersionChar_iff.1 (List.all_eq_true.1 List.all_takeWhile c hc)
          · rw [String.toList_ofList, ← hdrop, List.takeWhile_append_dropWhile]
      · cases h
    · cases h
  · rintro ⟨v, hv, hrest, rfl⟩
    obtain ⟨htake, hdrop⟩ := takeWhile_of_isVersion hv hrest
    cases rest with
    | nil => cases hrest
    | cons c rest =>
      injection hrest with hc
      subst hc
      have hne : v.toList ≠ [] := fun hnil => hv.1 (String.toList_eq_nil_iff.1 hnil)
      simp only [stripVersion?, htake, hdrop, List.isEmpty_iff, if_neg hne]

theorem beginsWithVersion_iff {path : String} :
    BeginsWithVersion path ↔ ∃ rest, stripVersion? path.toList = some rest := by
  constructor
  · rintro ⟨v, rest, hv, hrest, rfl⟩
    exact ⟨rest.toList, stripVersion?_eq_some_iff.2 ⟨v, hv, hrest, by simp⟩⟩
  · rintro ⟨rest, h⟩
    obtain ⟨v, hv, hrest, hpath⟩ := stripVersion?_eq_some_iff.1 h
    refine ⟨v, String.ofList rest, hv, by rwa [String.toList_ofList], String.toList_inj.1 ?_⟩
    rw [hpath]
    simp

/-- A path that has no route as it stands gets the route of what is behind its version. -/
theorem resolve?_eq_some_iff {path : String} : t.resolve? method path = some found ↔
    t.resolveUnversioned? method path.toList = some found ∨
      t.resolveUnversioned? method path.toList = none ∧
        ∃ v rest : String, IsVersion v ∧ rest.toList.head? = some '/' ∧
          path = "/v" ++ v ++ rest ∧ t.resolveUnversioned? method rest.toList = some found := by
  unfold resolve?
  cases t.resolveUnversioned? method path.toList with
  | some m => simp
  | none =>
    rw [Option.bind_eq_some_iff]
    constructor
    · rintro ⟨rest, hstrip, hrest⟩
      obtain ⟨v, hv, hslash, hpath⟩ := stripVersion?_eq_some_iff.1 hstrip
      refine .inr ⟨rfl, v, String.ofList rest, hv, ?_, String.toList_inj.1 ?_, ?_⟩
      · rwa [String.toList_ofList]
      · rw [hpath]
        simp
      · rwa [String.toList_ofList]
    · rintro (h | ⟨-, v, rest, hv, hslash, rfl, hrest⟩)
      · cases h
      · exact ⟨rest.toList, stripVersion?_eq_some_iff.2 ⟨v, hv, hslash, by simp⟩, hrest⟩

end Table

/-! ## The standard table -/

/-- Does the path begin with a slash, and not with a version? -/
def opensPlainly : List Char → Bool
  | '/' :: c :: d :: _ => !(c == 'v' && Table.isVersionChar d)
  | _ => false

theorem opensPlainly_append {head : List Char} (h : opensPlainly head = true) (rest : List Char) :
    opensPlainly (head ++ rest) = true := by
  unfold opensPlainly at h
  split at h
  · exact h
  · cases h

/-- What stands in every path of the pattern before the name. -/
def Pattern.opening : Pattern → List Char
  | exact p => p
  | named head _ => head

theorem Pattern.Fits.opensPlainly {p : Pattern} (h : p.Fits path name)
    (hp : Route.opensPlainly p.opening = true) : Route.opensPlainly path = true := by
  cases p with
  | exact p =>
    obtain ⟨rfl, -⟩ := h
    exact hp
  | named head tail =>
    obtain ⟨n, rfl, -⟩ := h
    rw [List.append_assoc]
    exact opensPlainly_append hp _

theorem not_opensPlainly_of_version {v : String} (hv : Table.IsVersion v) (rest : List Char) :
    opensPlainly ('/' :: 'v' :: (v.toList ++ rest)) = false := by
  cases hchars : v.toList with
  | nil => exact absurd (String.toList_eq_nil_iff.1 hchars) hv.1
  | cons c chars =>
    have hc : Table.isVersionChar c = true := by
      refine Table.isVersionChar_iff.2 (hv.2 c ?_)
      rw [hchars]
      exact List.mem_cons_self
    simp [opensPlainly, hc]

namespace Table

theorem standard_isUnambiguous : standard.IsUnambiguous := by decide +kernel

theorem standard_opensPlainly :
    standard.all (fun e => opensPlainly e.pattern.opening) = true := by decide +kernel

theorem opensPlainly_of_leads (h : standard.Leads method path found) :
    opensPlainly path = true := by
  obtain ⟨e, he, -, hfits, -⟩ := h
  exact hfits.opensPlainly (List.all_eq_true.1 standard_opensPlainly e he)

theorem standard_resolveUnversioned?_eq_some_iff :
    standard.resolveUnversioned? method path = some found ↔ standard.Leads method path found :=
  standard_isUnambiguous.hasOneRoute.resolveUnversioned?_eq_some_iff

/-- No route stands behind a version. -/
theorem resolveUnversioned?_of_version {v : String} (hv : IsVersion v) (method : String)
    (rest : List Char) :
    standard.resolveUnversioned? method ('/' :: 'v' :: (v.toList ++ rest)) = none := by
  refine Option.eq_none_iff_forall_ne_some.2 fun found hfound => ?_
  have hplain := opensPlainly_of_leads (leads_of_resolveUnversioned? hfound)
  rw [not_opensPlainly_of_version hv] at hplain
  cases hplain

theorem resolveUnversioned?_of_beginsWithVersion {path : String} (h : BeginsWithVersion path)
    (method : String) : standard.resolveUnversioned? method path.toList = none := by
  obtain ⟨v, rest, hv, -, rfl⟩ := h
  have hlist : ("/v" ++ v ++ rest).toList = '/' :: 'v' :: (v.toList ++ rest.toList) := by simp
  rw [hlist]
  exact resolveUnversioned?_of_version hv method rest.toList

theorem resolve?_of_version {v rest : String} (hv : IsVersion v)
    (hrest : rest.toList.head? = some '/') (method : String) :
    standard.resolve? method ("/v" ++ v ++ rest) =
      standard.resolveUnversioned? method rest.toList := by
  have hlist : ("/v" ++ v ++ rest).toList = '/' :: 'v' :: (v.toList ++ rest.toList) := by simp
  have hstrip : stripVersion? ('/' :: 'v' :: (v.toList ++ rest.toList)) = some rest.toList :=
    stripVersion?_eq_some_iff.2 ⟨v, hv, hrest, rfl⟩
  unfold resolve?
  rw [hlist, resolveUnversioned?_of_version hv, hstrip]
  rfl

theorem resolve?_of_not_beginsWithVersion {path : String} (h : ¬BeginsWithVersion path)
    (method : String) : standard.resolve? method path =
      standard.resolveUnversioned? method path.toList := by
  have hstrip : stripVersion? path.toList = none := by
    refine Option.eq_none_iff_forall_ne_some.2 fun rest hrest => ?_
    exact h (beginsWithVersion_iff.2 ⟨rest, hrest⟩)
  unfold resolve?
  rw [hstrip]
  cases standard.resolveUnversioned? method path.toList <;> rfl

theorem head?_of_leads (h : standard.Leads method path found) : path.head? = some '/' := by
  have hplain := opensPlainly_of_leads h
  unfold opensPlainly at hplain
  split at hplain
  · rfl
  · cases hplain

/-- A path has the route that leads from it, or from what stands behind the version before it. -/
theorem standard_resolve?_eq_some_iff {path : String} :
    standard.resolve? method path = some found ↔
      ∃ rest : String, (path = rest ∨ ∃ v, IsVersion v ∧ path = "/v" ++ v ++ rest) ∧
        standard.Leads method rest.toList found := by
  constructor
  · intro h
    rcases resolve?_eq_some_iff.1 h with h | ⟨-, v, rest, hv, -, hpath, h⟩
    · exact ⟨path, .inl rfl, leads_of_resolveUnversioned? h⟩
    · exact ⟨rest, .inr ⟨v, hv, hpath⟩, leads_of_resolveUnversioned? h⟩
  · rintro ⟨rest, rfl | ⟨v, hv, rfl⟩, hleads⟩
    · unfold resolve?
      rw [standard_resolveUnversioned?_eq_some_iff.2 hleads]
    · rw [resolve?_of_version hv (head?_of_leads hleads)]
      exact standard_resolveUnversioned?_eq_some_iff.2 hleads

/-- In the standard table at most one route fits a path, and a route with a name fits it with one name
only; so the order of the routes does not matter. A version before a path is taken off once: behind it the
path resolves as it does without, and not at all if another version follows. The paths that resolve are
those of the routes, with one version before them or none. -/
theorem standard_routes_are_unambiguous :
    (∀ method path, (standard.filter fun e =>
      e.method == method && (e.pattern.matches? path).isSome).length ≤ 1) ∧
    (∀ e ∈ standard, ∀ head tail, e.pattern = .named head tail →
      ∀ path found, e.pattern.matches? path = some found → ∃ name : String,
        found = some name ∧ ∀ other : String, path = head ++ other.toList ++ tail ↔ other = name) ∧
    (∀ t : Table, List.Perm t standard →
      ∀ method path, t.resolve? method path = standard.resolve? method path) ∧
    (∀ method v p, IsVersion v → p.toList.head? = some '/' →
      standard.resolve? method ("/v" ++ v ++ p) = standard.resolveUnversioned? method p.toList ∧
      (¬BeginsWithVersion p →
        standard.resolve? method ("/v" ++ v ++ p) = standard.resolve? method p) ∧
      (BeginsWithVersion p → standard.resolve? method ("/v" ++ v ++ p) = none)) ∧
    ∀ method path found, standard.resolve? method path = some found ↔
      ∃ rest : String, (path = rest ∨ ∃ v, IsVersion v ∧ path = "/v" ++ v ++ rest) ∧
        ∃ e ∈ standard, e.method = method ∧ e.pattern.Fits rest.toList found.name ∧
          found.policy = e.policy := by
  refine ⟨?_, ?_, ?_, ?_, ?_⟩
  · exact standard_isUnambiguous.length_fitting_le
  · intro e he head tail hnamed path found hfound
    rw [hnamed] at hfound
    have hfits := Pattern.matches?_eq_some_iff.1 hfound
    obtain ⟨name, hpath, hname⟩ := id hfits
    refine ⟨name, hname, fun other => ⟨fun hother => ?_, fun hother => hother ▸ hpath⟩⟩
    have hfits' : (Pattern.named head tail).Fits path (some other) := ⟨other, hother, rfl⟩
    have hsame := hfits.name_unique hfits'
    rw [hname] at hsame
    exact Option.some.inj hsame
  · intro t hperm method path
    exact standard_isUnambiguous.hasOneRoute.resolve?_perm hperm method path
  · intro method v p hv hp
    rw [resolve?_of_version hv hp]
    refine ⟨rfl, fun hplain => ?_, fun hversion => ?_⟩
    · rw [resolve?_of_not_beginsWithVersion hplain]
    · exact resolveUnversioned?_of_beginsWithVersion hversion method
  · intro method path found
    exact standard_resolve?_eq_some_iff

end Table

end HostFleet.Route
