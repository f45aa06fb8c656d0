import HostFleet.Proofs.Report.Independence
import HostFleet.Proofs.Report.LastReport
import Mathlib.Data.List.Sort

/-! # Listings

The records of a kind are listed newest first, and by id among the equally old. Since every record is stored
under its own id, no two of them stand at the same place, so that what is listed leaves no choice.

* `Registry.Before`: the strict order of a listing; `Registry.listed`: some records in that order.
* `Registry.Keyed`: every record is stored under its own id; kept by every event.
* `Registry.IsCanonical`: a listing that is told by the stored records alone.
* `listings_are_canonical`: the listings of every registry that grows from an empty one.
-/

set_option autoImplicit false

namespace HostFleet

open Report (Connection Resource)

namespace Registry

/-! ## The order of a listing -/

section Order

variable {α : Type} (created : α → Int) (id : α → String)

/-- Newer, or equally old and with the lesser id. -/
def Before (a b : α) : Prop := created b < created a ∨ created a = created b ∧ id a < id b

/-- Records in the order in which they are listed. -/
def listed (records : List α) : List α :=
  records.mergeSort fun a b => listedBefore (created a) (id a) (created b) (id b)

instance : Std.Irrefl (Before created id) where
  irrefl a h := by
    rcases h with h | ⟨-, h⟩
    · exact Int.lt_irrefl (created a) h
    · exact String.lt_irrefl (id a) h

instance : Std.Antisymm (Before created id) where
  antisymm a b hab hba := by
    exfalso
    rcases hab with hab | ⟨hsame, hab⟩
    · rcases hba with hba | ⟨hsame, -⟩ <;> omega
    · rcases hba with hba | ⟨-, hba⟩
      · omega
      · exact String.lt_asymm hab hba

variable {created id}

theorem listedBefore_iff {a b : α} :
    listedBefore (created a) (id a) (created b) (id b) = true ↔
      created b < created a ∨ created a = created b ∧ id a ≤ id b := by
  unfold listedBefore
  rw [Bool.or_eq_true, Bool.and_eq_true, decide_eq_true_iff, decide_eq_true_iff, decide_eq_true_iff]
  exact or_congr_right (and_congr_left' eq_comm)

theorem listedBefore_trans (a b c : α)
    (hab : listedBefore (created a) (id a) (created b) (id b) = true)
    (hbc : listedBefore (created b) (id b) (created c) (id c) = true) :
    listedBefore (created a) (id a) (created c) (id c) = true := by
  rw [listedBefore_iff] at hab hbc ⊢
  rcases hab with hab | ⟨hsame, hab⟩
  · rcases hbc with hbc | ⟨hsame, -⟩ <;> exact .inl (by omega)
  · rcases hbc with hbc | ⟨hsame', hbc⟩
    · exact .inl (by omega)
    · exact .inr ⟨hsame.trans hsame', String.le_trans hab hbc⟩

theorem listedBefore_total (a b : α) :
    (listedBefore (created a) (id a) (created b) (id b) ||
      listedBefore (created b) (id b) (created a) (id a)) = true := by
  rw [Bool.or_eq_true, listedBefore_iff, listedBefore_iff]
  rcases Int.lt_trichotomy (created a) (created b) with h | h | h
  · exact .inr (.inl h)
  · rcases String.le_total (id a) (id b) with hle | hle
    · exact .inl (.inr ⟨h, hle⟩)
    · exact .inr (.inr ⟨h.symm, hle⟩)
  · exact .inl (.inl h)

/-- Records that are not listed strictly one before the other have the same id. -/
theorem before_of_listedBefore {a b : α}
    (h : listedBefore (created a) (id a) (created b) (id b) = true) (hne : id a ≠ id b) :
    Before created id a b := by
  refine (listedBefore_iff.1 h).imp_right fun ⟨hsame, hle⟩ => ⟨hsame, ?_⟩
  exact Std.lt_of_le_of_ne hle hne

theorem mem_listed_iff {records : List α} {a : α} : a ∈ listed created id records ↔ a ∈ records :=
  (List.mergeSort_perm records _).mem_iff

theorem pairwise_listed {records : List α} (h : (records.map id).Nodup) :
    (listed created id records).Pairwise (Before created id) := by
  have hsorted : (listed created id records).Pairwise fun a b =>
      listedBefore (created a) (id a) (created b) (id b) = true :=
    List.pairwise_mergeSort listedBefore_trans listedBefore_total records
  have hperm : (listed created id records).Perm records := List.mergeSort_perm records _
  have hids : (listed created id records).Pairwise fun a b => id a ≠ id b :=
    List.pairwise_map.1 ((hperm.map id).nodup_iff.2 h)
  exact hsorted.imp₂ (fun a b => before_of_listedBefore) hids

/-- The stored records in an order that they alone tell: any list of them in this order is the answer, and
so is what sorting makes of them, in whatever order they are read out. -/
structure IsCanonical (created : α → Int) (id : α → String) (stored answer : List α) : Prop where
  once : answer.Perm stored ∧ answer.Nodup
  sorted : answer.Pairwise (Before created id)
  unique : ∀ l : List α, l.Pairwise (Before created id) → (∀ a, a ∈ l ↔ a ∈ stored) → l = answer
  readOut : ∀ order : List α, order.Perm stored → listed created id order = answer

theorem isCanonical_listed {stored : List α} (h : (stored.map id).Nodup) :
    IsCanonical created id stored (listed created id stored) := by
  have hsorted : (listed created id stored).Pairwise (Before created id) := pairwise_listed h
  have hunique : ∀ l : List α, l.Pairwise (Before created id) → (∀ a, a ∈ l ↔ a ∈ stored) →
      l = listed created id stored := fun l hl hmem =>
    hl.eq_of_mem_iff hsorted fun a => (hmem a).trans mem_listed_iff.symm
  refine ⟨⟨List.mergeSort_perm stored _, hsorted.nodup⟩, hsorted, hunique, fun order horder => ?_⟩
  refine hunique _ (pairwise_listed ?_) fun a => mem_listed_iff.trans horder.mem_iff
  exact (horder.map id).nodup_iff.2 h

end Order

/-! ## Ids -/

/-- Every record is stored under its own id. -/
def Keyed (r : Registry) : Prop := ∀ kind id x, r.record? kind id = some x → x.id = id

theorem Keyed.empty (cascade : Bool) : (Registry.empty cascade).Keyed := by
  intro kind id x h
  rw [record?_empty] at h
  cases h

theorem id_of_stores? {change : Report.Change} {r : Registry} {peer : Option Ip} {kind : Kind}
    {id : String} {x : Resource} (h : change.stores? r peer kind id = some x) : x.id = id := by
  cases change with
  | take resources =>
    have hof := List.find?_some h
    exact (of_decide_eq_true hof).2
  | dropImage dropped => cases h
  | dropContainer dropped => cases h

theorem Keyed.after {o : Occurrence} (h : o.registry.Keyed) (hc : o.registry.Consistent) :
    o.after.Keyed := by
  intro kind id x hx
  rw [o.record?_after hc, Option.or_eq_some_iff] at hx
  rcases hx with hx | ⟨-, hx⟩
  · unfold Occurrence.stores? at hx
    split at hx
    · split at hx
      · exact id_of_stores? hx
      · cases hx
    · cases hx
  · exact h kind id x (Option.filter_eq_some_iff.1 hx).1

theorem keyed_applyAll (cascade : Bool) (history : List Event) :
    (Event.applyAll (.empty cascade) history).Keyed := by
  induction history using List.reverseRecOn with
  | nil => exact Keyed.empty cascade
  | append_singleton history event ih =>
    rw [Event.applyAll_concat]
    exact Keyed.after (o := ⟨_, event⟩) ih ((Consistent.empty cascade).applyAll history)

/-- Records that are stored under their own ids have different ids. -/
theorem nodup_ids {α : Type} {id : α → String} {records : Book α}
    (h : ∀ name a, records.get? name = some a → id a = name) : (records.values.map id).Nodup := by
  have hnames : records.values.map id = records.names := by
    unfold Book.values Book.names
    rw [List.map_map]
    refine List.map_congr_left fun e he => ?_
    exact h e.1 e.2 (records.mem_toList_iff.1 he)
  rw [hnames]
  refine List.pairwise_map.2 (records.sorted.imp ?_)
  rintro a b hlt heq
  exact String.lt_irrefl b.1 (heq ▸ hlt)

theorem Keyed.isCanonical_allContainers {r : Registry} (h : r.Keyed) :
    IsCanonical (·.created) (·.id) r.containers.values r.allContainers := by
  refine isCanonical_listed (nodup_ids fun name record hrecord => ?_)
  refine h .container name (.container record) ?_
  rw [record?_container, hrecord, Option.map_some]

theorem Keyed.isCanonical_allImages {r : Registry} (h : r.Keyed) :
    IsCanonical (·.created) (·.id) r.images.values r.allImages := by
  refine isCanonical_listed (nodup_ids fun name record hrecord => ?_)
  refine h .image name (.image record) ?_
  rw [record?_image, hrecord, Option.map_some]

end Registry

open Registry

/-- In every registry that grows from an empty one, a listing has each stored record once, newest first and
by id among the equally old, and nothing else is a listing of these records. So two such registries with
the same records list the same, however they came to them, and reports about different records may come in
any order. -/
theorem listings_are_canonical (cascade : Bool) (history : List Event) :
    let r := Event.applyAll (.empty cascade) history
    IsCanonical (·.created) (·.id) r.containers.values r.allContainers ∧
    IsCanonical (·.created) (·.id) r.images.values r.allImages ∧
    (∀ (cascade' : Bool) (history' : List Event),
      let r' := Event.applyAll (.empty cascade') history'
      ((∀ x, x ∈ r'.containers.values ↔ x ∈ r.containers.values) →
        r'.allContainers = r.allContainers) ∧
      ((∀ x, x ∈ r'.images.values ↔ x ∈ r.images.values) → r'.allImages = r.allImages)) ∧
    ∀ connections order : List Connection, connections.Pairwise Connection.Unrelated →
      order.Perm connections →
      let s := connections.foldl (fun r c => (c.serve r).1) r
      let t := order.foldl (fun r c => (c.serve r).1) r
      t.allContainers = s.allContainers ∧ t.allImages = s.allImages := by
  intro r
  have hkeyed : r.Keyed := keyed_applyAll cascade history
  have hcontainers := hkeyed.isCanonical_allContainers
  have himages := hkeyed.isCanonical_allImages
  refine ⟨hcontainers, himages, ?_, ?_⟩
  · intro cascade' history' r'
    have hkeyed' : r'.Keyed := keyed_applyAll cascade' history'
    refine ⟨fun hsame => ?_, fun hsame => ?_⟩
    · have hcontainers' := hkeyed'.isCanonical_allContainers
      exact hcontainers.unique _ hcontainers'.sorted fun x =>
        hcontainers'.once.1.mem_iff.trans (hsame x)
    · have himages' := hkeyed'.isCanonical_allImages
      exact himages.unique _ himages'.sorted fun x => himages'.once.1.mem_iff.trans (hsame x)
  · intro connections order hunrelated hperm s t
    have hsame : t = s := Connection.serveAll_perm hunrelated hperm r
    rw [hsame]
    exact ⟨rfl, rfl⟩

example : listed Prod.fst Prod.snd [((1 : Int), "b"), (2, "c"), (1, "a")] =
    [(2, "c"), (1, "a"), (1, "b")] := by cbv

end HostFleet
