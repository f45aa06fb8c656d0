import HostFleet.Proofs.Http.Authority
import HostFleet.Proofs.Route.Resolution
import HostFleet.Proxy.Dispatch

/-! # The paths that are passed on

Every standard route begins with a word, and so does every path that a request is given in place of its
own. What is passed on behind a host begins with that word.

* `behindWord?`: what stands behind the first word of a path.
* `beginsWithWord_of_resolve?`: the path of a request that has a route.
* `readParts_of_retarget?`, `beginsWithWord_of_retarget?`: the path of a request that is aimed at a
  container.
-/

set_option autoImplicit false

namespace HostFleet

open Http (Target)
open Http.Url (BeginsWithWord IsWord isEnd isWordChar)

/-! ## Paths that begin with a word -/

namespace Http.Url

instance : DecidablePred IsWord
  | [] => inferInstanceAs (Decidable False)
  | c :: more => inferInstanceAs (Decidable (c.isLower = true ∧ more.all isWordChar = true))

/-- What stands behind the first word of the path. -/
def behindWord? : List Char → Option (List Char)
  | '/' :: path => if IsWord (path.takeWhile isWordChar) then some (path.dropWhile isWordChar) else none
  | _ => none

theorem exists_word_of_behindWord? {path rest : List Char} (h : behindWord? path = some rest) :
    ∃ w, IsWord w ∧ path = '/' :: (w ++ rest) := by
  unfold behindWord? at h
  split at h
  · next path =>
    split at h
    · next hword =>
      injection h with h
      refine ⟨path.takeWhile isWordChar, hword, ?_⟩
      rw [← h, List.takeWhile_append_dropWhile]
    · cases h
  · cases h

variable {path s : List Char}

theorem BeginsWithWord.append (h : BeginsWithWord path) (hs : ∀ c ∈ s.head?, isEnd c = true) :
    BeginsWithWord (path ++ s) := by
  obtain ⟨w, rest, rfl, hword, hrest⟩ := h
  refine ⟨w, rest ++ s, by simp, hword, ?_⟩
  cases rest with
  | nil => exact hs
  | cons c rest => exact hrest

/-- A path that is cut at signs which neither stand in words nor end them keeps its word. -/
theorem BeginsWithWord.takeWhile (h : BeginsWithWord path) {p : Char → Bool} (hslash : p '/' = true)
    (hchar : ∀ c, isWordChar c = true → p c = true) : BeginsWithWord (path.takeWhile p) := by
  obtain ⟨w, rest, rfl, hword, hrest⟩ := h
  refine ⟨w, rest.takeWhile p, ?_, hword, ?_⟩
  · rw [List.takeWhile_cons_of_pos hslash,
      List.takeWhile_append_of_pos fun c hc => hchar c (hword.all c hc)]
  · intro c hc
    rw [List.head?_takeWhile] at hc
    exact hrest c (Option.filter_eq_some_iff.1 hc).1

end Http.Url

/-! ## Routes -/

namespace Route

/-- Do all paths of the pattern begin with a word? -/
def Pattern.isWordFirst : Pattern → Bool
  | exact path => (Http.Url.behindWord? path).any fun rest => rest.head?.all isEnd
  | named head _ => (Http.Url.behindWord? head).any fun rest => rest.head?.any isEnd

theorem standard_isWordFirst : Table.standard.all (·.pattern.isWordFirst) = true := by
  decide +kernel

theorem Pattern.Fits.beginsWithWord {p : Pattern} {path : List Char} {name : Option String}
    (h : p.Fits path name) (hp : p.isWordFirst = true) : BeginsWithWord path := by
  cases p with
  | exact path' =>
    obtain ⟨rfl, -⟩ := h
    obtain ⟨rest, hrest, hend⟩ := (Option.any_eq_true _ _).1 hp
    obtain ⟨w, hword, hpath⟩ := Http.Url.exists_word_of_behindWord? hrest
    exact ⟨w, rest, hpath, hword, (Option.all_eq_true _ _).1 hend⟩
  | named head tail =>
    obtain ⟨n, rfl, -⟩ := h
    obtain ⟨rest, hrest, hend⟩ := (Option.any_eq_true _ _).1 hp
    obtain ⟨w, hword, hhead⟩ := Http.Url.exists_word_of_behindWord? hrest
    refine ⟨w, rest ++ (n.toList ++ tail), ?_, hword, ?_⟩
    · rw [hhead]
      simp
    · cases rest with
      | nil => cases hend
      | cons c rest =>
        intro d hd
        injection hd with hd
        exact hd ▸ hend

namespace Table

theorem isWordChar_of_isVersionChar {c : Char} (h : isVersionChar c = true) :
    isWordChar c = true := by
  unfold isVersionChar at h
  unfold isWordChar
  rw [Bool.or_assoc, Bool.or_eq_true]
  exact .inr h

theorem beginsWithWord_of_leads {method : String} {path : List Char} {found : Match}
    (h : standard.Leads method path found) : BeginsWithWord path := by
  obtain ⟨e, he, -, hfits, -⟩ := h
  exact hfits.beginsWithWord (List.all_eq_true.1 standard_isWordFirst e he)

theorem beginsWithWord_of_stripVersion? {path rest : List Char}
    (h : stripVersion? path = some rest) : BeginsWithWord path := by
  obtain ⟨v, hv, hrest, rfl⟩ := stripVersion?_eq_some_iff.1 h
  refine ⟨'v' :: v.toList, rest, rfl, ⟨by decide, ?_⟩, ?_⟩
  · refine List.all_eq_true.2 fun c hc => isWordChar_of_isVersionChar ?_
    exact isVersionChar_iff.2 (hv.2 c hc)
  · intro c hc
    rw [hrest] at hc
    injection hc with hc
    exact hc ▸ rfl

end Table

/-- A request that has a standard route asks for a path that begins with a word. -/
theorem beginsWithWord_of_resolve? {method path : String} {found : Match}
    (h : Table.standard.resolve? method path = some found) : BeginsWithWord path.toList := by
  unfold Table.resolve? at h
  split at h
  · next m hm =>
    exact Table.beginsWithWord_of_leads (Table.leads_of_resolveUnversioned? hm)
  · obtain ⟨rest, hrest, -⟩ := Option.bind_eq_some_iff.1 h
    exact Table.beginsWithWord_of_stripVersion? hrest

end Route

/-! ## Targets -/

namespace Http.Target

variable {t : Target}

theorem beginsWithWord_rawPath (h : BeginsWithWord t.route.toList) :
    BeginsWithWord t.rawPath.toList := by
  unfold route at h
  split at h
  · exact h
  · -- the root and the empty path begin with no word
    obtain ⟨w, rest, hpath, hword, -⟩ := h
    split at hpath
    · cases hpath
    · cases w with
      | nil => exact hword.elim
      | cons c w => cases hpath

/-- A query with the mark before it. -/
def behindPath (query : Option String) : List Char := query.elim [] fun query => '?' :: query.toList

theorem toList_withQuery (path query : String) :
    (path ++ "?" ++ query).toList = path.toList ++ behindPath (some query) := by
  rw [String.toList_append, String.toList_append, List.append_assoc]
  rfl

theorem beginsWithWord_behindPath {path : List Char} (h : BeginsWithWord path)
    (query : Option String) : BeginsWithWord (path ++ behindPath query) := by
  refine h.append fun c hc => ?_
  cases query with
  | none => cases hc
  | some query =>
    injection hc with hc
    exact hc ▸ rfl

theorem rawPath_ne_empty (h : BeginsWithWord t.rawPath.toList) : t.rawPath ≠ "" := by
  intro hempty
  rw [hempty] at h
  obtain ⟨w, rest, hpath, -⟩ := h
  cases hpath

theorem toList_pathAndQuery (h : t.rawPath ≠ "") :
    t.pathAndQuery.toList = t.rawPath.toList ++ behindPath t.query := by
  unfold pathAndQuery
  split
  · next query hquery =>
    rw [hquery]
    exact toList_withQuery t.rawPath query
  · next hquery =>
    rw [hquery, if_neg (mt String.isEmpty_iff.1 h)]
    exact (List.append_nil _).symm

theorem beginsWithWord_pathAndQuery (h : BeginsWithWord t.rawPath.toList) :
    BeginsWithWord t.pathAndQuery.toList := by
  rw [toList_pathAndQuery (rawPath_ne_empty h)]
  exact beginsWithWord_behindPath h t.query

theorem takeWhile_of_cutFirst {s before : List Char} {sep : Char}
    (h : (Text.cutFirst sep s).elim s (·.1) = before) : before = s.takeWhile (· != sep) := by
  unfold Text.cutFirst at h
  split at h
  · next hdrop =>
    have hjoin := List.takeWhile_append_dropWhile (p := (· != sep)) (l := s)
    rw [hdrop, List.append_nil] at hjoin
    rw [← h, hjoin]
    rfl
  · exact h.symm

theorem rawPath_of_readParts {s : List Char} {path : String} {query : Option String}
    (h : readParts s = some (path, query)) :
    path.toList = (s.takeWhile (· != '#')).takeWhile (· != '?') := by
  unfold readParts at h
  extract_lets s' at h
  refine takeWhile_of_cutFirst ?_
  split at h
  · next hcut =>
    split at h
    · cases h
      rw [hcut, String.toList_ofList]
      rfl
    · cases h
  · next hcut =>
    split at h
    · cases h
      rw [hcut, String.toList_ofList]
      rfl
    · cases h

/-- A path with what stands behind it is read as such. -/
theorem readParts_of_parse? {text : String} (h : parse? text = some t)
    (hslash : text.toList.head? = some '/') :
    readParts text.toList = some (t.rawPath, t.query) := by
  unfold parse? at h
  split at h
  · cases h
  · split at h
    · next hstar =>
      rw [hstar] at hslash
      cases hslash
    · next rest htext =>
      obtain ⟨⟨path, query⟩, hparts, rfl⟩ := Option.map_eq_some_iff.1 h
      rw [htext]
      exact hparts
    · next hother =>
      cases hlist : text.toList with
      | nil =>
        rw [hlist] at hslash
        cases hslash
      | cons c rest =>
        rw [hlist] at hslash
        injection hslash with hc
        exact absurd (hc ▸ hlist) (hother rest)

end Http.Target

namespace Proxy

variable {target t : Target} {path : String}

theorem readParts_of_retarget? (h : retarget? target path = .ok t)
    (hslash : path.toList.head? = some '/') :
    Target.readParts (path.toList ++ Target.behindPath target.query) = some (t.rawPath, t.query) := by
  unfold retarget? at h
  extract_lets text at h
  have htext : text.toList = path.toList ++ Target.behindPath target.query := by
    simp only [text]
    cases target.query with
    | none => exact (List.append_nil _).symm
    | some query => exact Target.toList_withQuery path query
  split at h
  · next t' hparse =>
    injection h with h
    subst h
    have hhead : text.toList.head? = some '/' := by
      rw [htext, List.head?_append, hslash]
      rfl
    rw [← htext]
    exact Target.readParts_of_parse? hparse hhead
  · cases h

/-- The path behind which a request is aimed at a container. -/
theorem beginsWithWord_of_retarget? (h : retarget? target path = .ok t)
    (hword : BeginsWithWord path.toList) : BeginsWithWord t.rawPath.toList := by
  have hslash : path.toList.head? = some '/' := by
    obtain ⟨w, rest, hpath, -⟩ := hword
    rw [hpath]
    rfl
  have hwhole := Target.beginsWithWord_behindPath hword target.query
  have hends : ∀ mark, isWordChar mark = false → ∀ c, isWordChar c = true → (c != mark) = true := by
    intro mark hmark c hc
    refine bne_iff_ne.2 ?_
    rintro rfl
    rw [hmark] at hc
    cases hc
  rw [Target.rawPath_of_readParts (readParts_of_retarget? h hslash)]
  exact (hwhole.takeWhile (by decide) (hends '#' (by decide))).takeWhile (by decide)
    (hends '?' (by decide))

end Proxy

end HostFleet
