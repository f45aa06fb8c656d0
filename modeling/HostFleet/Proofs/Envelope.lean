import HostFleet.Envelope
import HostFleet.Proofs.Text.Utf8

/-! # The codec of envelopes

* `exists_split_iff`: which payloads are read: a space stands behind their first byte.
* `separator_mem_ofText_iff`: the space of a payload is the space of a text.
* `envelopes_are_exact`: an envelope is read as it was written if it has data and the command has no
  space, and the parts of a payload are the only ones that it can have been written from.
-/

set_option autoImplicit false

namespace HostFleet.Envelope

theorem separator_mem_ofText_iff {s : String} : separator ∈ Bytes.ofText s ↔ ' ' ∈ s.toList := by
  have hspace : separator = UInt8.ofNat (' ' : Char).toNat := rfl
  rw [hspace]
  exact Bytes.mem_ofText_iff (by decide)

theorem exists_last_separator {s : Bytes} (h : separator ∈ s) :
    ∃ before after, s = before ++ separator :: after ∧ separator ∉ after := by
  obtain ⟨after, before, hreverse, hnot⟩ := List.eq_append_cons_of_mem (List.mem_reverse.2 h)
  refine ⟨before.reverse, after.reverse, ?_, fun hmem => hnot (List.mem_reverse.1 hmem)⟩
  rw [← List.reverse_reverse s, hreverse]
  simp

theorem exists_split_iff {payload : Bytes} :
    (∃ parts, split payload = some parts) ↔ ∃ i, 0 < i ∧ payload[i]? = some separator := by
  constructor
  · rintro ⟨⟨data, command⟩, hsplit⟩
    obtain ⟨hdata, rfl, -⟩ := split_eq_some_iff.1 hsplit
    refine ⟨data.length, List.length_pos_iff.2 hdata, ?_⟩
    rw [List.getElem?_append_right (Nat.le_refl _), Nat.sub_self, List.getElem?_cons_zero]
  · rintro ⟨i, hi, hget⟩
    cases payload with
    | nil => cases hget
    | cons first rest =>
      obtain ⟨j, rfl⟩ := Nat.exists_eq_succ_of_ne_zero (Nat.ne_of_gt hi)
      -- the first byte is no candidate, so the last space of the others is the separator
      have hmem : separator ∈ rest := List.mem_of_getElem? hget
      obtain ⟨before, after, hrest, hnot⟩ := exists_last_separator hmem
      refine ⟨(first :: before, after), split_eq_some_iff.2 ⟨List.cons_ne_nil first before, ?_, hnot⟩⟩
      rw [hrest, List.cons_append]

/-- Data and command are read back from their envelope exactly when there is data and the command has no
space, whatever else the bytes are. A payload is read exactly when a space stands behind its first byte;
what is then read is the one pair of parts, with data and without a space in the command, that makes this
payload when it is joined. -/
theorem envelopes_are_exact :
    (∀ data command : Bytes, split (data ++ separator :: command) = some (data, command) ↔
      data ≠ [] ∧ separator ∉ command) ∧
    (∀ (data : Bytes) (command : String),
      split (join data command) = some (data, Bytes.ofText command) ↔
        data ≠ [] ∧ ' ' ∉ command.toList) ∧
    ∀ payload : Bytes,
      ((∃ parts, split payload = some parts) ↔ ∃ i, 0 < i ∧ payload[i]? = some separator) ∧
      ∀ data command, split payload = some (data, command) ↔
        data ≠ [] ∧ separator ∉ command ∧ data ++ separator :: command = payload := by
  have hparts : ∀ payload data command : Bytes, split payload = some (data, command) ↔
      data ≠ [] ∧ separator ∉ command ∧ data ++ separator :: command = payload := by
    intro payload data command
    rw [split_eq_some_iff, eq_comm (a := payload), and_comm (a := _ = payload)]
  have hjoined : ∀ data command : Bytes,
      split (data ++ separator :: command) = some (data, command) ↔
        data ≠ [] ∧ separator ∉ command := by
    intro data command
    rw [hparts, and_iff_left rfl]
  refine ⟨hjoined, ?_, fun payload => ⟨exists_split_iff, hparts payload⟩⟩
  intro data command
  rw [join, hjoined, separator_mem_ofText_iff]

/-- A space in the first place separates nothing. -/
example : split (separator :: Bytes.ofText "report_image_list") = none := by decide

end HostFleet.Envelope
