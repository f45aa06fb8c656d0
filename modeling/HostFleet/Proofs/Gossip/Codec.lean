import HostFleet.Proofs.Decimal.Digits
import HostFleet.Proofs.Envelope
import HostFleet.Proofs.Gossip.Datagram

/-! # Heartbeats written and read

* `GossipCommand.ofWire?_wireName`, `GossipCommand.ofWire?_eq_some_iff`: the names of a command.
* `Heartbeat.ofText?_eq_ok_iff`, `Heartbeat.parse?_eq_ok_iff`: what is read as a heartbeat.
* `Heartbeat.ofText?_text`: a heartbeat without spaces is read back from its own text.
* `Heartbeat.eq_of_ofText?_text`: no other heartbeat is.
* `Gossip.announced?_eq_some_iff`, `Gossip.announced?_encode`: the same for whole datagrams.
* `Gossip.heartbeats_survive_encoding`: which heartbeats are read back from their datagram.
-/

set_option autoImplicit false

namespace HostFleet

/-! ## Names -/

namespace GossipCommand

theorem ofWire?_wireName (c : GossipCommand) : ofWire? (Bytes.ofText c.wireName) = some c := by
  cases c <;> decide +kernel

theorem space_not_mem_wireName (c : GossipCommand) : 0x20 ∉ Bytes.ofText c.wireName := by
  cases c <;> decide +kernel

theorem ofWire?_eq_some_iff {name : Bytes} {c : GossipCommand} :
    ofWire? name = some c ↔ ∃ w, (w, c) ∈ wireNames ∧ name = Bytes.ofText w := by
  have hall : ∀ entry ∈ wireNames, ofWire? (Bytes.ofText entry.1) = some entry.2 := by
    decide +kernel
  constructor
  · intro h
    obtain ⟨⟨w, d⟩, hfound, rfl⟩ := Option.map_eq_some_iff.1 h
    have hname : (Bytes.ofText w == name) = true :=
      List.find?_some (p := fun entry : String × GossipCommand => Bytes.ofText entry.1 == name) hfound
    exact ⟨w, List.mem_of_find?_eq_some hfound, (beq_iff_eq.1 hname).symm⟩
  · rintro ⟨w, hw, rfl⟩
    exact hall (w, c) hw

theorem separator_not_mem_of_mem {w : String} {c : GossipCommand} (h : (w, c) ∈ wireNames) :
    Envelope.separator ∉ Bytes.ofText w := by
  have hall : ∀ entry ∈ wireNames, Envelope.separator ∉ Bytes.ofText entry.1 := by decide +kernel
  exact hall (w, c) h

theorem role_injective {c d : GossipCommand} (h : c.role = d.role) : c = d := by
  rw [← ofRole_role c, h, ofRole_role]

end GossipCommand

/-! ## Texts -/

namespace Heartbeat

variable {h : Heartbeat} {text : String}

/-- Neither address nor hostname holds a space. -/
structure IsSpaceless (h : Heartbeat) : Prop where
  address : ' ' ∉ h.address.toList
  hostname : ' ' ∉ h.hostname.toList

theorem space_not_mem_toString (i : Int) : ' ' ∉ (toString i).toList := by
  have hdigits : ∀ n, ' ' ∉ Nat.toDigits 10 n := by
    intro n hn
    exact absurd (Decimal.isDigit_of_mem_toDigits hn) (by decide)
  rw [Decimal.toList_toString]
  split
  · exact hdigits _
  · exact List.not_mem_cons_of_ne_of_not_mem (by decide) (hdigits _)

theorem toList_text (h : Heartbeat) :
    h.text.toList =
      h.address.toList ++ ' ' :: (h.hostname.toList ++ ' ' :: (toString h.status).toList) := by
  have hspace : (" " : String).toList = [' '] := rfl
  unfold text
  rw [String.toList_append, String.toList_append, String.toList_append, String.toList_append, hspace]
  simp only [List.append_assoc, List.cons_append, List.nil_append]

theorem fields_of_isSpaceless (hspaceless : h.IsSpaceless) {status : List Char}
    (hstatus : ' ' ∉ status) :
    Text.fields ' ' (h.address.toList ++ ' ' :: (h.hostname.toList ++ ' ' :: status)) =
      [h.address.toList, h.hostname.toList, status] := by
  rw [Text.fields_append_cons hspaceless.address, Text.fields_append_cons hspaceless.hostname,
    Text.fields_of_not_mem hstatus]

theorem fields_text (hspaceless : h.IsSpaceless) :
    Text.fields ' ' h.text.toList =
      [h.address.toList, h.hostname.toList, (toString h.status).toList] := by
  rw [toList_text, fields_of_isSpaceless hspaceless (space_not_mem_toString h.status)]

/-- A heartbeat is read from exactly three fields: an address, a hostname and a status of 32 bits. -/
theorem ofText?_eq_ok_iff : ofText? text = .ok h ↔
    ∃ status, Text.fields ' ' text.toList = [h.address.toList, h.hostname.toList, status] ∧
      h.address ≠ "" ∧ Decimal.int32? status = some h.status := by
  have hempty : ∀ s : List Char, s.isEmpty = true ↔ String.ofList s = "" := by
    intro s
    rw [List.isEmpty_iff, String.ofList_eq_empty_iff]
  unfold ofText?
  constructor
  · intro hread
    split at hread
    · next address hostname status hfields =>
      split at hread
      · cases hread
      · next haddress =>
        split at hread
        · next n hstatus =>
          injection hread with hread
          subst hread
          refine ⟨status, ?_, fun h => haddress ((hempty address).2 h), hstatus⟩
          simp only [String.toList_ofList, hfields]
        · cases hread
    · cases hread
  · rintro ⟨status, hfields, haddress, hstatus⟩
    have haddress' : ¬h.address.toList.isEmpty = true := by
      rw [hempty, String.ofList_toList]
      exact haddress
    simp only [hfields, if_neg haddress', hstatus, String.ofList_toList]

theorem ofText?_text (hspaceless : h.IsSpaceless) (haddress : h.address ≠ "")
    (hstatus : Decimal.minInt32 ≤ h.status ∧ h.status ≤ Decimal.maxInt32) :
    ofText? h.text = .ok h :=
  ofText?_eq_ok_iff.2
    ⟨_, fields_text hspaceless, haddress, Decimal.signed?_toString hstatus⟩

theorem space_not_mem_of_int32? {status : List Char} {i : Int}
    (h : Decimal.int32? status = some i) : ' ' ∉ status := by
  obtain ⟨hspells, -⟩ := Decimal.signed?_eq_some_iff.1 h
  exact hspells.not_mem (by decide) (by decide) (by decide)

/-- What is read as a heartbeat is its three fields with a space between them. -/
theorem ofText?_eq_ok_iff_append : ofText? text = .ok h ↔
    (h.address ≠ "" ∧ h.IsSpaceless) ∧ ∃ status, Decimal.int32? status = some h.status ∧
      text.toList = h.address.toList ++ ' ' :: (h.hostname.toList ++ ' ' :: status) := by
  rw [ofText?_eq_ok_iff]
  constructor
  · rintro ⟨status, hfields, hne, hvalue⟩
    obtain ⟨behind, htext, haddress, hbehind⟩ := Text.fields_eq_cons_iff.1 hfields
    obtain ⟨rest, hrest, hhostname, hlast⟩ := Text.fields_eq_cons_iff.1 hbehind
    obtain ⟨rfl, -⟩ := Text.fields_eq_singleton_iff.1 hlast
    refine ⟨⟨hne, haddress, hhostname⟩, rest, hvalue, ?_⟩
    rw [htext, hrest]
  · rintro ⟨⟨hne, hspaceless⟩, status, hvalue, htext⟩
    refine ⟨status, ?_, hne, hvalue⟩
    rw [htext, fields_of_isSpaceless hspaceless (space_not_mem_of_int32? hvalue)]

theorem parse?_eq_ok_iff {data : Bytes} :
    parse? data = .ok h ↔ ∃ text, data = Bytes.ofText text ∧ ofText? text = .ok h := by
  unfold parse?
  constructor
  · intro hread
    split at hread
    · next text htext => exact ⟨text, Bytes.text?_eq_some_iff.1 htext, hread⟩
    · cases hread
  · rintro ⟨text, rfl, hread⟩
    rw [Bytes.text?_ofText]
    exact hread

/-! ### Spaces in a field -/

theorem isSpaceless_of_ofText?_text {h' : Heartbeat} (hread : ofText? h.text = .ok h') :
    h.IsSpaceless := by
  obtain ⟨status, hfields, -, -⟩ := ofText?_eq_ok_iff.1 hread
  have hcount := Text.length_fields ' ' h.text.toList
  rw [hfields, toList_text] at hcount
  simp only [List.length_cons, List.length_nil, List.count_append, List.count_cons_self] at hcount
  -- three fields leave room for the two spaces between them only
  have haddress : h.address.toList.count ' ' = 0 := by omega
  have hhostname : h.hostname.toList.count ' ' = 0 := by omega
  exact ⟨List.count_eq_zero.1 haddress, List.count_eq_zero.1 hhostname⟩

theorem eq_of_ofText?_text {h' : Heartbeat}
    (hstatus : Decimal.minInt32 ≤ h.status ∧ h.status ≤ Decimal.maxInt32)
    (hread : ofText? h.text = .ok h') : h' = h := by
  have hspaceless := isSpaceless_of_ofText?_text hread
  obtain ⟨status, hfields, -, hvalue⟩ := ofText?_eq_ok_iff.1 hread
  rw [fields_text hspaceless] at hfields
  simp only [List.cons.injEq, and_true] at hfields
  obtain ⟨haddress, hhostname, rfl⟩ := hfields
  have hown : Decimal.int32? (toString h.status).toList = some h.status :=
    Decimal.signed?_toString hstatus
  rw [hown] at hvalue
  obtain ⟨a, n, i⟩ := h
  obtain ⟨a', n', i'⟩ := h'
  have ha : a = a' := String.toList_inj.1 haddress
  have hn : n = n' := String.toList_inj.1 hhostname
  have hi : i = i' := Option.some.inj hvalue
  rw [ha, hn, hi]

theorem parse?_ofText_text_iff
    (hstatus : Decimal.minInt32 ≤ h.status ∧ h.status ≤ Decimal.maxInt32) :
    parse? (Bytes.ofText h.text) = .ok h ↔ h.address ≠ "" ∧ h.IsSpaceless := by
  rw [parse?_eq_ok_iff]
  constructor
  · rintro ⟨text, htext, hread⟩
    obtain rfl := Bytes.ofText_injective htext
    obtain ⟨-, -, haddress, -⟩ := ofText?_eq_ok_iff.1 hread
    exact ⟨haddress, isSpaceless_of_ofText?_text hread⟩
  · rintro ⟨haddress, hspaceless⟩
    exact ⟨h.text, rfl, ofText?_text hspaceless haddress hstatus⟩

theorem of_parse? {data : Bytes} (hread : parse? data = .ok h) :
    (h.address ≠ "" ∧ h.IsSpaceless) ∧
      Decimal.minInt32 ≤ h.status ∧ h.status ≤ Decimal.maxInt32 := by
  obtain ⟨text, rfl, htext⟩ := parse?_eq_ok_iff.1 hread
  obtain ⟨hsound, status, hvalue, -⟩ := ofText?_eq_ok_iff_append.1 htext
  obtain ⟨-, hbounds⟩ := Decimal.signed?_eq_some_iff.1 hvalue
  exact ⟨hsound, hbounds⟩

end Heartbeat

/-! ## Datagrams -/

namespace Gossip

variable {datagram : Bytes} {c : GossipCommand} {h : Heartbeat}

theorem ofText_of_space {s : String} {a b : List Char} (hs : s.toList = a ++ ' ' :: b) :
    Bytes.ofText s =
      Bytes.ofText (String.ofList a) ++ Envelope.separator :: Bytes.ofText (String.ofList b) := by
  rw [Bytes.ofText_eq_flatMap, hs, List.flatMap_append, List.flatMap_cons, Bytes.ofText_ofList,
    Bytes.ofText_ofList]
  rfl

theorem separator_not_mem {s : List Char} (hs : ' ' ∉ s) :
    Envelope.separator ∉ Bytes.ofText (String.ofList s) := by
  rw [Envelope.separator_mem_ofText_iff, String.toList_ofList]
  exact hs

theorem announced?_eq_some_iff : announced? datagram = some (c, h) ↔
    ∃ data name, data ≠ [] ∧ datagram = data ++ Envelope.separator :: name ∧
      Envelope.separator ∉ name ∧ GossipCommand.ofWire? name = some c ∧
      Heartbeat.parse? data = .ok h := by
  unfold announced?
  constructor
  · intro hannounced
    cases hsplit : Envelope.split datagram with
    | none =>
      rw [hsplit] at hannounced
      cases hannounced
    | some found =>
      obtain ⟨data, name⟩ := found
      rw [hsplit] at hannounced
      obtain ⟨hdata, hdatagram, hname⟩ := Envelope.split_eq_some_iff.1 hsplit
      dsimp only at hannounced
      split at hannounced
      · next command heartbeat hcommand hparse =>
        injection hannounced with hannounced
        injection hannounced with hc hh
        subst hc hh
        exact ⟨data, name, hdata, hdatagram, hname, hcommand, hparse⟩
      · cases hannounced
  · rintro ⟨data, name, hdata, hdatagram, hname, hcommand, hparse⟩
    rw [Envelope.split_eq_some_iff.2 ⟨hdata, hdatagram, hname⟩]
    simp only [hcommand, hparse]

theorem split_encode (h : Heartbeat) (c : GossipCommand) :
    Envelope.split (h.encode c) = some (Bytes.ofText h.text, Bytes.ofText c.wireName) := by
  have htext : h.text ≠ "" := by
    intro hempty
    have hlist := Heartbeat.toList_text h
    rw [hempty] at hlist
    simp at hlist
  exact Envelope.split_eq_some_iff.2
    ⟨Bytes.ofText_ne_nil htext, rfl, c.space_not_mem_wireName⟩

theorem announced?_encode (hspaceless : h.IsSpaceless) (haddress : h.address ≠ "")
    (hstatus : Decimal.minInt32 ≤ h.status ∧ h.status ≤ Decimal.maxInt32) :
    announced? (h.encode c) = some (c, h) := by
  have hparse := (Heartbeat.parse?_ofText_text_iff hstatus).2 ⟨haddress, hspaceless⟩
  unfold announced?
  rw [split_encode]
  simp only [c.ofWire?_wireName, hparse]

/-- A datagram is cut into the command it was written for and a text that gives the heartbeat back if it
has an address and neither field holds a space, and that is refused otherwise. Every heartbeat that is
read can be written and read again. -/
theorem heartbeats_survive_encoding :
    (∀ (h : Heartbeat) (c : GossipCommand),
      Decimal.minInt32 ≤ h.status ∧ h.status ≤ Decimal.maxInt32 →
      ∃ data name, Envelope.split (h.encode c) = some (data, name) ∧
        GossipCommand.ofWire? name = some c ∧
        (Heartbeat.parse? data = .ok h ↔ h.address ≠ "" ∧ h.IsSpaceless) ∧
        (¬(h.address ≠ "" ∧ h.IsSpaceless) → ∃ fault, Heartbeat.parse? data = .error fault)) ∧
    ∀ (data : Bytes) (h : Heartbeat), Heartbeat.parse? data = .ok h →
      (h.address ≠ "" ∧ h.IsSpaceless) ∧
      ∀ c, ∃ data' name, Envelope.split (h.encode c) = some (data', name) ∧
        GossipCommand.ofWire? name = some c ∧ Heartbeat.parse? data' = .ok h := by
  refine ⟨?_, ?_⟩
  · intro h c hstatus
    have hback := Heartbeat.parse?_ofText_text_iff hstatus
    refine ⟨_, _, split_encode h c, c.ofWire?_wireName, hback, fun hnot => ?_⟩
    cases hread : Heartbeat.parse? (Bytes.ofText h.text) with
    | error fault => exact ⟨fault, rfl⟩
    | ok h' =>
      obtain ⟨text, htext, hok⟩ := Heartbeat.parse?_eq_ok_iff.1 hread
      obtain rfl := Bytes.ofText_injective htext
      rw [Heartbeat.eq_of_ofText?_text hstatus hok] at hread
      exact absurd (hback.1 hread) hnot
  · intro data h hread
    obtain ⟨hsound, hstatus⟩ := Heartbeat.of_parse? hread
    refine ⟨hsound, fun c => ?_⟩
    exact ⟨_, _, split_encode h c, c.ofWire?_wireName, (Heartbeat.parse?_ofText_text_iff hstatus).2 hsound⟩

/-- A heartbeat without a hostname, with the least status. -/
def nameless : Heartbeat := ⟨"tcp://10.0.0.5:4243", "", -2147483648⟩

theorem nameless_survives_encoding :
    (Decimal.minInt32 ≤ nameless.status ∧ nameless.status ≤ Decimal.maxInt32) ∧
      (∃ data name, Envelope.split (nameless.encode .agentInternal) = some (data, name) ∧
        GossipCommand.ofWire? name = some .agentInternal ∧ Heartbeat.parse? data = .ok nameless) ∧
      Heartbeat.parse? (Bytes.ofText "tcp://10.0.0.5:4243  -2147483648") = .ok nameless ∧
      (nameless.address ≠ "" ∧ nameless.IsSpaceless) := by
  have hread : Heartbeat.parse? (Bytes.ofText "tcp://10.0.0.5:4243  -2147483648") = .ok nameless := by
    rfl
  have hsound := (heartbeats_survive_encoding.2 _ nameless hread).1
  obtain ⟨data, name, hsplit, hname, hback, -⟩ :=
    heartbeats_survive_encoding.1 nameless .agentInternal (by decide)
  exact ⟨by decide, ⟨data, name, hsplit, hname, hback.2 hsound⟩, hread, hsound⟩

end Gossip

end HostFleet
