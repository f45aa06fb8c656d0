import HostFleet.Proofs.Http.Framing
import Mathlib.Data.List.Perm.Basic

/-! # Lines brought together

The lines of a head are held by name: those of one name stand together, at the place of the first.

* `Headers.grouped_cons`: the lines of the first name come first, then the others, brought together.
* `Headers.grouped_perm`, `Headers.values_grouped`: no line is lost or added, and those of a name keep
  their order.
* `Headers.IsTogether`: the lines of each name stand together already.
* `Headers.grouped_eq_self_iff`: only then all lines stay where they are.
-/

set_option autoImplicit false

namespace HostFleet.Http.Headers

variable {h : Headers} {line : String × Bytes} {name : String}

/-! ## Lines of one name -/

/-- The lines of a name. -/
def linesOf (h : Headers) (name : String) : Headers := h.filter fun line => line.1 == name

/-- The lines of all other names. -/
def linesBut (h : Headers) (name : String) : Headers := h.filter fun line => !(line.1 == name)

theorem linesOf_cons_of_eq (hname : line.1 = name) : linesOf (line :: h) name = line :: h.linesOf name :=
  List.filter_cons_of_pos (beq_iff_eq.2 hname)

theorem linesOf_cons_of_ne (hname : line.1 ≠ name) : linesOf (line :: h) name = h.linesOf name :=
  List.filter_cons_of_neg (mt beq_iff_eq.1 hname)

theorem linesBut_cons_of_eq (hname : line.1 = name) : linesBut (line :: h) name = h.linesBut name :=
  List.filter_cons_of_neg (by simp [hname])

theorem linesBut_cons_of_ne (hname : line.1 ≠ name) :
    linesBut (line :: h) name = line :: h.linesBut name :=
  List.filter_cons_of_pos (by simp [hname])

theorem linesOf_append (h k : Headers) (name : String) :
    linesOf (h ++ k) name = h.linesOf name ++ k.linesOf name := List.filter_append ..

theorem linesOf_eq_nil (hnone : ∀ line ∈ h, line.1 ≠ name) : h.linesOf name = [] :=
  List.filter_eq_nil_iff.2 fun line hline => mt beq_iff_eq.1 (hnone line hline)

theorem linesOf_eq_self (hall : ∀ line ∈ h, line.1 = name) : h.linesOf name = h :=
  List.filter_eq_self.2 fun line hline => beq_iff_eq.2 (hall line hline)

theorem linesOf_linesBut {other : String} (hne : other ≠ name) :
    (h.linesBut name).linesOf other = h.linesOf other := by
  unfold linesBut linesOf
  rw [List.filter_filter]
  refine List.filter_congr fun line _ => ?_
  by_cases hline : line.1 = other
  · rw [hline, beq_self_eq_true, Bool.true_and, beq_false_of_ne hne]
    rfl
  · rw [beq_false_of_ne hline, Bool.false_and]

theorem names_linesBut (h : Headers) (name : String) :
    (h.linesBut name).map (·.1) = (h.map (·.1)).filter fun n => !(n == name) := by
  unfold linesBut
  rw [List.filter_map]
  rfl

theorem length_linesBut_le (h : Headers) (name : String) : (h.linesBut name).length ≤ h.length :=
  List.length_filter_le _ h

theorem fst_of_mem_linesOf (hline : line ∈ h.linesOf name) : line.1 = name :=
  beq_iff_eq.1 (List.mem_filter.1 hline).2

theorem fst_ne_of_mem_linesBut (hline : line ∈ h.linesBut name) : line.1 ≠ name := by
  have hkept := (List.mem_filter.1 hline).2
  rw [Bool.not_eq_true'] at hkept
  exact ne_of_beq_false hkept

/-! ## All lines -/

theorem grouped_cons (line : String × Bytes) (h : Headers) :
    grouped (line :: h) = line :: (h.linesOf line.1 ++ (h.linesBut line.1).grouped) := by
  have hfirst : linesOf (line :: h) line.1 = line :: h.linesOf line.1 :=
    List.filter_cons_of_pos (beq_self_eq_true line.1)
  have hother : ∀ name ∈ ((h.linesBut line.1).map (·.1)).eraseDups,
      linesOf (line :: h) name = (h.linesBut line.1).linesOf name := by
    intro name hname
    obtain ⟨line', hline', rfl⟩ := List.mem_map.1 (List.mem_eraseDups.1 hname)
    have hne := fst_ne_of_mem_linesBut hline'
    rw [linesOf_linesBut hne]
    exact List.filter_cons_of_neg (by simpa using hne.symm)
  have hnames : ((line :: h).map (·.1)).eraseDups =
      line.1 :: ((h.linesBut line.1).map (·.1)).eraseDups := by
    rw [List.map_cons, List.eraseDups_cons, names_linesBut]
  calc grouped (line :: h)
      = ((line :: h).map (·.1)).eraseDups.flatMap (linesOf (line :: h)) := rfl
    _ = line :: h.linesOf line.1 ++ ((h.linesBut line.1).map (·.1)).eraseDups.flatMap
          (linesOf (line :: h)) := by rw [hnames, List.flatMap_cons, hfirst]
    _ = line :: (h.linesOf line.1 ++ (h.linesBut line.1).grouped) := by
        rw [List.cons_append]
        exact congrArg (fun more => line :: (h.linesOf line.1 ++ more)) (List.flatMap_congr hother)

/-- What holds of no lines, and with the lines of a first name put in front, holds of all. -/
theorem groupedRec {motive : Headers → Prop} (nil : motive [])
    (cons : ∀ line h, motive (linesBut h line.1) → motive (line :: h)) (h : Headers) : motive h := by
  induction hlength : h.length using Nat.strongRecOn generalizing h with
  | ind n ih =>
    cases h with
    | nil => exact nil
    | cons line h =>
      refine cons line h (ih _ ?_ (linesBut h line.1) rfl)
      rw [← hlength, List.length_cons]
      exact Nat.lt_succ_of_le (length_linesBut_le h line.1)

theorem grouped_perm (h : Headers) : h.grouped.Perm h := by
  induction h using groupedRec with
  | nil => exact .refl []
  | cons line h ih =>
    rw [grouped_cons]
    have hrest : (h.linesOf line.1 ++ (h.linesBut line.1).grouped).Perm
        (h.linesOf line.1 ++ h.linesBut line.1) := ih.append_left (h.linesOf line.1)
    exact (hrest.trans (List.filter_append_perm _ h)).cons line

theorem mem_grouped_iff : line ∈ h.grouped ↔ line ∈ h := (grouped_perm h).mem_iff

theorem linesOf_grouped (h : Headers) (name : String) : h.grouped.linesOf name = h.linesOf name := by
  induction h using groupedRec with
  | nil => rfl
  | cons line h ih =>
    rw [grouped_cons]
    by_cases hname : line.1 = name
    · subst hname
      have hrest : (h.linesBut line.1).grouped.linesOf line.1 = [] :=
        linesOf_eq_nil fun line' hline' => fst_ne_of_mem_linesBut (mem_grouped_iff.1 hline')
      have hsame : (h.linesOf line.1).linesOf line.1 = h.linesOf line.1 :=
        linesOf_eq_self fun line' hline' => fst_of_mem_linesOf hline'
      rw [linesOf_cons_of_eq rfl, linesOf_append, hrest, hsame, List.append_nil,
        linesOf_cons_of_eq rfl]
    · have hnone : (h.linesOf line.1).linesOf name = [] :=
        linesOf_eq_nil fun line' hline' => (fst_of_mem_linesOf hline').trans_ne hname
      rw [linesOf_linesBut (Ne.symm hname)] at ih
      rw [linesOf_cons_of_ne hname, linesOf_append, hnone, List.nil_append, ih,
        linesOf_cons_of_ne hname]

/-- The lines of a name keep their order. -/
theorem values_grouped (h : Headers) (name : String) : h.grouped.values name = h.values name :=
  congrArg (List.map Prod.snd) (linesOf_grouped h name)

/-- The names keep the order of their first lines. -/
theorem names_grouped (h : Headers) :
    (h.grouped.map (·.1)).eraseDups = (h.map (·.1)).eraseDups := by
  induction h using groupedRec with
  | nil => rfl
  | cons line h ih =>
    have hsame : ((h.linesOf line.1).map (·.1)).filter (fun n => !(n == line.1)) = [] := by
      rw [List.filter_eq_nil_iff]
      intro name hname
      obtain ⟨line', hline', rfl⟩ := List.mem_map.1 hname
      simp [fst_of_mem_linesOf hline']
    have hother : ((h.linesBut line.1).grouped.map (·.1)).filter (fun n => !(n == line.1)) =
        (h.linesBut line.1).grouped.map (·.1) := by
      rw [List.filter_eq_self]
      intro name hname
      obtain ⟨line', hline', rfl⟩ := List.mem_map.1 hname
      simp [fst_ne_of_mem_linesBut (mem_grouped_iff.1 hline')]
    rw [grouped_cons, List.map_cons, List.map_append, List.eraseDups_cons, List.filter_append, hsame,
      hother, List.nil_append, ih, names_linesBut, List.map_cons, List.eraseDups_cons]

/-! ## Lines that stand together -/

/-- Between two lines of a name stands no line of another. -/
def IsTogether (h : Headers) : Prop :=
  ∀ a b c : String × Bytes, [a, b, c].Sublist h → a.1 = c.1 → b.1 = a.1

theorem IsTogether.of_sublist {k : Headers} (hh : h.IsTogether) (hk : k.Sublist h) : k.IsTogether :=
  fun a b c hsub => hh a b c (hsub.trans hk)

/-- The lines of the first name stand in front of all others. -/
theorem IsTogether.split (hh : IsTogether (line :: h)) :
    h.linesOf line.1 ++ h.linesBut line.1 = h := by
  induction h with
  | nil => rfl
  | cons next h ih =>
    have hsplit := ih (hh.of_sublist ((List.sublist_cons_self next h).cons_cons line))
    by_cases hnext : next.1 = line.1
    · rw [linesOf_cons_of_eq hnext, linesBut_cons_of_eq hnext, List.cons_append, hsplit]
    · -- behind a line of another name there is none of the first
      have hnone : linesOf h line.1 = [] := by
        refine linesOf_eq_nil fun last hlast heq => hnext (hh line next last ?_ heq.symm)
        exact ((List.singleton_sublist.2 hlast).cons_cons next).cons_cons line
      rw [hnone, List.nil_append] at hsplit
      rw [linesOf_cons_of_ne hnext, hnone, List.nil_append, linesBut_cons_of_ne hnext, hsplit]

theorem isTogether_grouped (h : Headers) : h.grouped.IsTogether := by
  induction h using groupedRec with
  | nil => exact fun a b c hsub _ => nomatch hsub
  | cons line h ih =>
    rw [grouped_cons, ← List.cons_append]
    have hfront : ∀ l ∈ line :: h.linesOf line.1, l.1 = line.1 := by
      intro l hl
      rcases List.mem_cons.1 hl with rfl | hl
      · rfl
      · exact fst_of_mem_linesOf hl
    have hback : ∀ l ∈ (h.linesBut line.1).grouped, l.1 ≠ line.1 :=
      fun l hl => fst_ne_of_mem_linesBut (mem_grouped_iff.1 hl)
    intro a b c hsub hac
    obtain ⟨front, back, heq, hsubFront, hsubBack⟩ := List.sublist_append_iff.1 hsub
    match front, heq with
    | [], heq => exact ih a b c (heq ▸ hsubBack) hac
    | [_], rfl =>
      -- the last line has the name of the first part, and so it stands there
      have ha := hfront a (hsubFront.mem List.mem_cons_self)
      exact absurd (hac ▸ ha) (hback c (hsubBack.mem (by simp)))
    | _ :: _ :: more, heq =>
      simp only [List.cons_append, List.cons.injEq] at heq
      obtain ⟨rfl, rfl, -⟩ := heq
      have ha := hfront a (hsubFront.mem List.mem_cons_self)
      rw [ha]
      exact hfront b (hsubFront.mem (by simp))

/-- All lines stay where they are exactly if those of each name stand together. -/
theorem grouped_eq_self_iff : h.grouped = h ↔ h.IsTogether := by
  refine ⟨fun heq => heq ▸ isTogether_grouped h, fun hh => ?_⟩
  induction h using groupedRec with
  | nil => rfl
  | cons line h ih =>
    have hbut : (h.linesBut line.1).IsTogether :=
      hh.of_sublist ((List.filter_sublist (l := h)).cons line)
    rw [grouped_cons, ih hbut, hh.split]

example : grouped [("a", [1]), ("b", [2]), ("a", [3])] = [("a", [1]), ("a", [3]), ("b", [2])] := by
  decide +kernel

end HostFleet.Http.Headers
