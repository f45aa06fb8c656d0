import HostFleet.Bytes

/-! # Report commands

What a runtime host can tell about its images and containers.

* `ofWire?_eq_some_iff`: a command is recognised by its own name and no other.
-/

set_option autoImplicit false

namespace HostFleet

inductive ReportCommand where
  | imageList
  | imageCreated
  | imageUpdated
  | imageDeleted
  | containerList
  | containerCreated
  | containerUpdated
  | containerDeleted
  deriving DecidableEq, Repr

namespace ReportCommand

def all : List ReportCommand :=
  [imageList, imageCreated, imageUpdated, imageDeleted, containerList, containerCreated,
    containerUpdated, containerDeleted]

theorem mem_all (c : ReportCommand) : c ∈ all := by cases c <;> simp [all]

def wireName : ReportCommand → String
  | imageList => "report_image_list"
  | imageCreated => "report_image_created"
  | imageUpdated => "report_image_updated"
  | imageDeleted => "report_image_deleted"
  | containerList => "report_container_list"
  | containerCreated => "report_container_created"
  | containerUpdated => "report_container_updated"
  | containerDeleted => "report_container_deleted"

def ofWire? (name : Bytes) : Option ReportCommand :=
  all.find? fun c => Bytes.ofText c.wireName == name

theorem wireName_injective {c d : ReportCommand} (h : c.wireName = d.wireName) : c = d := by
  cases c <;> cases d <;> simp [wireName] at h ⊢

theorem eq_of_ofWire? {name : Bytes} {c : ReportCommand} (h : ofWire? name = some c) :
    name = Bytes.ofText c.wireName := by
  unfold ofWire? at h
  have hfound := List.find?_some h
  exact (beq_iff_eq.1 hfound).symm

theorem ofWire?_eq_some_iff {name : Bytes} {c : ReportCommand} :
    ofWire? name = some c ↔ name = Bytes.ofText c.wireName := by
  refine ⟨eq_of_ofWire?, ?_⟩
  rintro rfl
  cases hfound : ofWire? (Bytes.ofText c.wireName) with
  | none =>
    unfold ofWire? at hfound
    exact absurd (beq_self_eq_true _) (List.find?_eq_none.1 hfound c c.mem_all)
  | some d => rw [wireName_injective (Bytes.ofText_injective (eq_of_ofWire? hfound))]

/-- No name of a command holds a space. -/
theorem space_not_mem_wireName (c : ReportCommand) : 0x20 ∉ Bytes.ofText c.wireName := by
  cases c <;> decide +kernel

end ReportCommand

end HostFleet
