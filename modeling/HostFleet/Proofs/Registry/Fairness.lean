import HostFleet.Proofs.Registry.Selection
import Mathlib.Algebra.BigOperators.Group.Finset.Piecewise
import Mathlib.Algebra.Order.BigOperators.Group.Finset

/-! # Fairness of the selection

Hosts come and go, change their roles and get containers in any order, and still take turns.

* `Throughout`: a property holds at every point of a run; `selections`: how often a run selects an address.
* `since_selection`: how the numbers of two hosts compare while one of them is not selected again.
* `InTurn`: of two hosts neither is more than one selection ahead, and one that is ahead has to wait;
  `inTurn_run` keeps it over a run in which the runtime hosts stay the same.
* `selections_are_fair`: both for every run from an empty registry.
-/

set_option autoImplicit false

namespace HostFleet.Registry

variable {r : Registry} {ops : List Operation} {op : Operation} {a b g h : String}

/-! ## Points of a run -/

/-- The property holds at every point of a run, its beginning and its end among them. -/
def Throughout (r : Registry) (ops : List Operation) (P : Registry → Prop) : Prop :=
  ∀ done, done <+: ops → P (r.run done)

section Throughout
variable {P : Registry → Prop}

theorem Throughout.at_end (hP : Throughout r ops P) : P (r.run ops) := hP ops (List.prefix_refl ops)

theorem Throughout.of_concat (hP : Throughout r (ops ++ [op]) P) : Throughout r ops P :=
  fun done hdone => hP done (hdone.trans (List.prefix_append ops [op]))

theorem Throughout.after (hP : Throughout r (ops ++ [op]) P) :
    P (⟨r.run ops, op⟩ : Step).after := by
  rw [← run_concat]
  exact hP.at_end

end Throughout

/-! ## What a step selects -/

namespace Step
variable {s : Step}

theorem isRuntimeHost_of_selected? (hr : s.registry.Consistent) (ha : s.selected? = some a) :
    s.registry.IsRuntimeHost a ∧
      ∀ b, s.registry.IsRuntimeHost b → b ≠ a → Precedes s.registry.assignment a b := by
  obtain ⟨r, op⟩ := s
  cases op with
  | select =>
    obtain ⟨e, he, rfl⟩ := Option.map_eq_some_iff.1 ha
    obtain ⟨⟨hstored, hrole⟩, hfirst⟩ := hr.selectHost_eq_some_iff.1 he
    exact ⟨⟨e, hstored, hrole⟩, hfirst⟩
  | _ => cases ha

theorem evicts_eq_false (hafter : s.after.IsRuntimeHost a) : s.evicts a = false := by
  obtain ⟨r, op⟩ := s
  cases op with
  | evict now maxAge =>
    obtain ⟨e, he, -⟩ := hafter
    have hgone : (r.evict now maxAge).1.endpoints.get? a = some e := he
    rw [get?_evict] at hgone
    split at hgone
    · cases hgone
    · next hkept => exact Bool.eq_false_iff.2 hkept
  | _ => rfl

end Step

/-- The number of a host that is not evicted changes by a selection of it only. -/
theorem assignment_concat (hr : r.Consistent)
    (hkept : (⟨r.run ops, op⟩ : Step).evicts a = false) :
    (r.run (ops ++ [op])).assignment a =
      if (⟨r.run ops, op⟩ : Step).selected? = some a then (r.run ops).lastAssignment + 1
      else (r.run ops).assignment a := by
  rw [run_concat, Step.assignment_after _ (hr.run ops), hkept, if_neg Bool.false_ne_true]

/-! ## Counting -/

/-- How often a run selects the address. -/
def selections (r : Registry) (ops : List Operation) (a : String) : Nat :=
  (steps r ops).countP fun s => s.selected? == some a

theorem selections_concat (r : Registry) (ops : List Operation) (op : Operation) (a : String) :
    selections r (ops ++ [op]) a =
      selections r ops a + if (⟨r.run ops, op⟩ : Step).selected? = some a then 1 else 0 := by
  unfold selections
  rw [steps_concat, List.countP_append, List.countP_singleton]
  simp only [beq_iff_eq]

/-! ## Since a selection -/

/-- Nothing happens to the address in a run: it is neither selected nor evicted. -/
def Untouched (r : Registry) (ops : List Operation) (a : String) : Prop :=
  ∀ s ∈ steps r ops, s.selected? ≠ some a ∧ s.evicts a = false

theorem Untouched.of_concat (hquiet : Untouched r (ops ++ [op]) a) :
    Untouched r ops a ∧ (⟨r.run ops, op⟩ : Step).selected? ≠ some a ∧
      (⟨r.run ops, op⟩ : Step).evicts a = false := by
  unfold Untouched at hquiet
  rw [steps_concat] at hquiet
  refine ⟨fun s hs => hquiet s (List.mem_append_left _ hs), ?_⟩
  exact hquiet _ (List.mem_append_right _ List.mem_cons_self)

theorem assignment_of_untouched (hr : r.Consistent) (hquiet : Untouched r ops a) :
    (r.run ops).assignment a = r.assignment a := by
  induction ops using List.reverseRecOn with
  | nil => rfl
  | append_singleton ops op ih =>
    obtain ⟨hquiet, hunselected, hkept⟩ := hquiet.of_concat
    rw [assignment_concat hr hkept, if_neg hunselected]
    exact ih hquiet

/-- While `h` is left alone, a host behind it stays behind it until it is selected, and is ahead of it
from then on. -/
theorem since_selection (hr : r.Consistent) (hquiet : Untouched r ops h)
    (hg : Throughout r ops (IsRuntimeHost · g)) (hbehind : r.assignment g < r.assignment h) :
    (selections r ops g = 0 ∧ (r.run ops).assignment g < r.assignment h) ∨
      (1 ≤ selections r ops g ∧ r.assignment h < (r.run ops).assignment g) := by
  induction ops using List.reverseRecOn with
  | nil => exact .inl ⟨rfl, hbehind⟩
  | append_singleton ops op ih =>
    have ih := ih hquiet.of_concat.1 hg.of_concat
    have hlast := (hr.run ops).assignment_le_last h
    rw [assignment_of_untouched hr hquiet.of_concat.1] at hlast
    rw [assignment_concat hr (Step.evicts_eq_false hg.after), selections_concat]
    split
    · exact .inr ⟨by omega, by omega⟩
    · exact ih

/-- While `h` stays a runtime host and is left alone, no host behind it is selected twice. -/
theorem selections_le_one (hr : r.Consistent) (hquiet : Untouched r ops h)
    (hh : Throughout r ops (IsRuntimeHost · h)) (hg : Throughout r ops (IsRuntimeHost · g))
    (hbehind : r.assignment g < r.assignment h) (hne : h ≠ g) : selections r ops g ≤ 1 := by
  induction ops using List.reverseRecOn with
  | nil => exact Nat.zero_le 1
  | append_singleton ops op ih =>
    have ih := ih hquiet.of_concat.1 hh.of_concat hg.of_concat
    rw [selections_concat]
    split
    · next hselected =>
      -- a second selection would prefer `g` to `h`, whose number is lower by now
      have hfirst := (Step.isRuntimeHost_of_selected? (hr.run ops) hselected).2 h
        hh.of_concat.at_end hne
      have hle : (r.run ops).assignment g ≤ (r.run ops).assignment h := hfirst.le
      rw [assignment_of_untouched hr hquiet.of_concat.1] at hle
      rcases since_selection hr hquiet.of_concat.1 hg.of_concat hbehind with ⟨hnone, -⟩ | ⟨-, hlt⟩
      · omega
      · omega
    · exact ih

/-- Between two selections of a host every other runtime host is selected, and only once if the first one
stays a runtime host. -/
theorem selections_between (hr : r.Consistent) (hfirst : r.nextHost? = some h)
    (hquiet : Untouched r.selectHost.1 ops h)
    (hsecond : (r.selectHost.1.run ops).nextHost? = some h) (hne : g ≠ h)
    (hg : Throughout r.selectHost.1 ops (IsRuntimeHost · g)) :
    1 ≤ selections r.selectHost.1 ops g ∧
      (Throughout r.selectHost.1 ops (IsRuntimeHost · h) →
        selections r.selectHost.1 ops g = 1) := by
  have hr' : r.selectHost.1.Consistent := hr.selectHost
  have hnumber : r.selectHost.1.assignment h = r.lastAssignment + 1 := by
    rw [assignment_selectHost, if_pos hfirst]
  have hbehind : r.selectHost.1.assignment g < r.selectHost.1.assignment h := by
    rw [hnumber, assignment_selectHost, if_neg fun hg => hne (Option.some.inj (hg.symm.trans hfirst))]
    exact Nat.lt_succ_of_le (hr.assignment_le_last g)
  have hleast := (Step.isRuntimeHost_of_selected? (s := ⟨r.selectHost.1.run ops, .select⟩)
    (hr'.run ops) hsecond).2 g hg.at_end hne
  have hle : (r.selectHost.1.run ops).assignment h ≤ (r.selectHost.1.run ops).assignment g :=
    hleast.le
  rw [assignment_of_untouched hr' hquiet] at hle
  have hone : 1 ≤ selections r.selectHost.1 ops g := by
    rcases since_selection hr' hquiet hg hbehind with ⟨-, hlt⟩ | ⟨hone, -⟩
    · omega
    · exact hone
  refine ⟨hone, fun hh => ?_⟩
  have := selections_le_one hr' hquiet hh hg hbehind hne.symm
  omega

/-! ## Unchanging hosts -/

/-- The runtime hosts are these at every point of a run. -/
def Steady (r : Registry) (ops : List Operation) (hosts : Finset String) : Prop :=
  Throughout r ops fun s => ∀ a, s.IsRuntimeHost a ↔ a ∈ hosts

/-- `a` is not ahead of `b`, or it is ahead by one selection and goes behind `b` now. -/
def InTurn (r : Registry) (ops : List Operation) (a b : String) : Prop :=
  selections r ops a ≤ selections r ops b ∨
    (selections r ops a = selections r ops b + 1 ∧ Precedes (r.run ops).assignment b a)

variable {hosts : Finset String}

theorem InTurn.concat (hr : r.Consistent) (hsteady : Steady r (ops ++ [op]) hosts)
    (ha : a ∈ hosts) (hb : b ∈ hosts) (hturn : InTurn r ops a b) :
    InTurn r (ops ++ [op]) a b := by
  have hnow := hr.run ops
  have hrole : ∀ {x}, x ∈ hosts → (r.run ops).IsRuntimeHost x :=
    fun hx => (hsteady.of_concat.at_end _).2 hx
  have hkept : ∀ {x}, x ∈ hosts → (⟨r.run ops, op⟩ : Step).evicts x = false :=
    fun hx => Step.evicts_eq_false ((hsteady.after _).2 hx)
  unfold InTurn
  rw [selections_concat, selections_concat, Precedes, assignment_concat hr (hkept ha),
    assignment_concat hr (hkept hb)]
  by_cases hsa : (⟨r.run ops, op⟩ : Step).selected? = some a
  · rw [if_pos hsa, if_pos hsa]
    by_cases hsb : (⟨r.run ops, op⟩ : Step).selected? = some b
    · have hab : a = b := Option.some.inj (hsa.symm.trans hsb)
      rw [if_pos hsb, hab]
      exact .inl (Nat.le_refl _)
    · rw [if_neg hsb, if_neg hsb]
      rcases hturn with hle | ⟨-, hahead⟩
      · by_cases heq : selections r ops a = selections r ops b
        · have := hnow.assignment_le_last b
          exact .inr ⟨by omega, .inl (by omega)⟩
        · exact .inl (by omega)
      · -- `a` cannot be selected while `b` goes before it
        have hfirst := (Step.isRuntimeHost_of_selected? hnow hsa).2 b (hrole hb) hahead.ne
        exact absurd hfirst hahead.asymm
  · rw [if_neg hsa, if_neg hsa]
    by_cases hsb : (⟨r.run ops, op⟩ : Step).selected? = some b
    · rw [if_pos hsb]
      refine .inl ?_
      rcases hturn with hle | ⟨hone, -⟩
      · omega
      · omega
    · rw [if_neg hsb, if_neg hsb]
      exact hturn

theorem inTurn_run (hr : r.Consistent) (hsteady : Steady r ops hosts) (ha : a ∈ hosts)
    (hb : b ∈ hosts) : InTurn r ops a b := by
  induction ops using List.reverseRecOn with
  | nil => exact .inl (Nat.le_refl 0)
  | append_singleton ops op ih => exact InTurn.concat hr hsteady ha hb (ih hsteady.of_concat)

theorem selections_le_succ (hr : r.Consistent) (hsteady : Steady r ops hosts) (ha : a ∈ hosts)
    (hb : b ∈ hosts) : selections r ops a ≤ selections r ops b + 1 := by
  rcases inTurn_run hr hsteady ha hb with hle | ⟨heq, -⟩
  · omega
  · omega

def Operation.isSelection : Operation → Bool
  | .select => true
  | _ => false

/-- Every selection of a run is one of some host. -/
theorem sum_selections (hr : r.Consistent) (hsteady : Steady r ops hosts)
    (hsome : hosts.Nonempty) :
    ∑ a ∈ hosts, selections r ops a = ops.countP (·.isSelection) := by
  induction ops using List.reverseRecOn with
  | nil => exact Finset.sum_const_zero
  | append_singleton ops op ih =>
    have hnow := hr.run ops
    have hhosts := hsteady.of_concat.at_end
    simp only [selections_concat]
    rw [Finset.sum_add_distrib, ih hsteady.of_concat, List.countP_append, List.countP_singleton]
    refine congrArg _ ?_
    cases hnext : (⟨r.run ops, op⟩ : Step).selected? with
    | none =>
      have hnot : op.isSelection = false := by
        cases op with
        | select =>
          obtain ⟨a, ha⟩ := hsome
          have hnone : (r.run ops).selectHost.2 = none := Option.map_eq_none_iff.1 hnext
          exact absurd ((hhosts a).2 ha) (hnow.selectHost_eq_none_iff.1 hnone a)
        | _ => rfl
      simp [hnot]
    | some a =>
      have ha : a ∈ hosts := (hhosts a).1 (Step.isRuntimeHost_of_selected? hnow hnext).1
      have his : op.isSelection = true := by
        cases op with
        | select => rfl
        | _ => cases hnext
      simp [his, Finset.sum_ite_eq, ha]

/-- As many selections as there are hosts take every host once. -/
theorem selections_eq_one (hr : r.Consistent) (hsteady : Steady r ops hosts)
    (hcount : ops.countP (·.isSelection) = hosts.card) (ha : a ∈ hosts) :
    selections r ops a = 1 := by
  have hsum := sum_selections hr hsteady ⟨a, ha⟩
  have hconst : ∑ _x ∈ hosts, 1 = hosts.card := by simp
  rcases Nat.lt_trichotomy (selections r ops a) 1 with hlow | heq | hhigh
  · -- no host is more than one ahead of `a`, and `a` falls short of one
    have hle : ∀ x ∈ hosts, selections r ops x ≤ 1 := by
      intro x hx
      have := selections_le_succ hr hsteady hx ha
      omega
    have hlt := Finset.sum_lt_sum hle ⟨a, ha, hlow⟩
    omega
  · exact heq
  · have hle : ∀ x ∈ hosts, 1 ≤ selections r ops x := by
      intro x hx
      have := selections_le_succ hr hsteady ha hx
      omega
    have hlt := Finset.sum_lt_sum hle ⟨a, ha, hhigh⟩
    omega

/-- In every run from an empty registry: between two selections of a host that is not evicted, every other
host that stays a runtime host is selected, and exactly once if the first one stays a runtime host too.
While the runtime hosts are the same, as many selections as there are hosts select each of them once, and
after any number of selections no host is more than one ahead of another. -/
theorem selections_are_fair (cascade : Bool) (before : List Operation) :
    let r := (Registry.empty cascade).run before
    (∀ h between, r.nextHost? = some h → Untouched r.selectHost.1 between h →
      (r.selectHost.1.run between).nextHost? = some h →
      ∀ g, g ≠ h → Throughout r.selectHost.1 between (IsRuntimeHost · g) →
        1 ≤ selections r.selectHost.1 between g ∧
        (Throughout r.selectHost.1 between (IsRuntimeHost · h) →
          selections r.selectHost.1 between g = 1)) ∧
    ∀ ops hosts, Steady r ops hosts →
      (ops.countP (·.isSelection) = hosts.card → ∀ a ∈ hosts, selections r ops a = 1) ∧
      ∀ a ∈ hosts, ∀ b ∈ hosts, selections r ops a ≤ selections r ops b + 1 := by
  intro r
  have hr : r.Consistent := (Consistent.empty cascade).run before
  refine ⟨?_, ?_⟩
  · intro h between hfirst hquiet hsecond g hne hg
    exact selections_between hr hfirst hquiet hsecond hne hg
  · intro ops hosts hsteady
    refine ⟨fun hcount a ha => ?_, fun a ha b hb => ?_⟩
    · exact selections_eq_one hr hsteady hcount ha
    · exact selections_le_succ hr hsteady ha hb

end HostFleet.Registry
