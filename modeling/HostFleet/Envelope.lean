import HostFleet.Bytes
import HostFleet.Text.Split

/-! # Envelopes

Gossip datagrams and report frames carry `<data> <command>`: the command is what follows the last
space. A space in the first place is never the separator, so data is never empty.

* `Envelope.join` writes an envelope, `Envelope.split` reads one.
* `split_eq_some_iff`: what is read is data and a command without space, and nothing else is.
-/

set_option autoImplicit false

namespace HostFleet.Envelope

/-- The space between data and command. -/
def separator : UInt8 := 0x20

/-- The envelope of some data under a command. -/
def join (data : Bytes) (command : String) : Bytes :=
  data ++ separator :: Bytes.ofText command

/-- Data and command, cut at the last space behind the first byte. -/
def split : Bytes → Option (Bytes × Bytes)
  | [] => none
  | first :: rest =>
    (Text.cutLast separator rest).map fun (data, command) => (first :: data, command)

theorem split_eq_some_iff {payload data command : Bytes} :
    split payload = some (data, command) ↔
      data ≠ [] ∧ payload = data ++ separator :: command ∧ separator ∉ command := by
  cases payload with
  | nil => simp [split]
  | cons first rest =>
    simp only [split, Option.map_eq_some_iff, Prod.exists, Prod.mk.injEq, Text.cutLast_eq_some_iff]
    constructor
    · rintro ⟨tail, command, ⟨hrest, hnot⟩, rfl, rfl⟩
      refine ⟨List.cons_ne_nil first tail, ?_, hnot⟩
      rw [hrest, List.cons_append]
    · rintro ⟨hdata, hpayload, hnot⟩
      cases data with
      | nil => exact absurd rfl hdata
      | cons head tail =>
        rw [List.cons_append] at hpayload
        injection hpayload with hfirst hrest
        exact ⟨tail, command, ⟨hrest, hnot⟩, by rw [hfirst], rfl⟩

end HostFleet.Envelope
