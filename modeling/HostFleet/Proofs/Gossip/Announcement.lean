import HostFleet.Proofs.Gossip.Codec
import HostFleet.Proofs.Settings.Start

/-! # Whether an announcement is heard

A controller sends its announcements as they are configured, and a receiver keeps the beginning of each
datagram. An announcement is heard if all of it arrives and its fields hold no space, and otherwise it is
lost without a word.

* `Gossip.Introduces`: a datagram makes an endpoint join just as it is announced.
* `announced?_take_iff`: when the heartbeat can be read from what is kept of its datagram.
* `announcement_heard_iff`: when the announcements of a checked configuration are heard.
* `spaced_name_is_not_heard`: the check lets a name pass with which nobody is heard.
-/

set_option autoImplicit false

namespace HostFleet

namespace Gossip

open Registry

variable {c : GossipCommand} {h : Heartbeat} {r : Registry} {now : Moment}

/-- The endpoint joins with the address, the hostname, the status and the role that are announced. -/
structure Introduces (datagram : Bytes) (c : GossipCommand) (h : Heartbeat) (r : Registry)
    (now : Moment) : Prop where
  joined : (receive r datagram now).2 = some .joined
  stored : (receive r datagram now).1.endpoints.get? h.address =
    some ⟨h.address, h.hostname, c.role, h.status, now, .peer⟩

theorem introduces_iff {datagram : Bytes} (hnew : r.endpoints.get? h.address = none) :
    Introduces datagram c h r now ↔ announced? datagram = some (c, h) := by
  constructor
  · rintro ⟨hjoined, hstored⟩
    rcases receive_cases r datagram now with
      ⟨c', h', hsaid, hr⟩ | ⟨-, a, -, hr⟩ | ⟨-, -, hr⟩
    · rw [hr] at hjoined hstored
      cases hknown : r.endpoints.get? h'.address with
      | some e =>
        rw [recordHeartbeat_of_get?_eq_some hknown] at hjoined
        cases hjoined
      | none =>
        rw [recordHeartbeat_of_get?_eq_none hknown, get?_addEndpoint] at hstored
        split at hstored
        · next haddress =>
          injection hstored with hstored
          injection hstored with ha hn hrole hs
          have hh : h' = h := by
            obtain ⟨a, n, s⟩ := h
            obtain ⟨a', n', s'⟩ := h'
            simp only at ha hn hs
            rw [ha, hn, hs]
          rw [hsaid, GossipCommand.role_injective hrole, hh]
        · rw [hnew] at hstored
          cases hstored
    · rw [hr] at hjoined
      split at hjoined
      · cases hjoined
      · cases hjoined
    · rw [hr] at hjoined
      cases hjoined
  · intro hsaid
    rcases receive_cases r datagram now with
      ⟨c', h', hsaid', hr⟩ | ⟨hunsaid, -⟩ | ⟨hunsaid, -⟩
    · rw [hsaid] at hsaid'
      injection hsaid' with heq
      injection heq with hc hh
      subst hc hh
      rw [recordHeartbeat_of_get?_eq_none hnew] at hr
      refine ⟨by rw [hr], ?_⟩
      rw [hr, get?_addEndpoint, if_pos rfl]
    · rw [hunsaid] at hsaid
      cases hsaid
    · rw [hunsaid] at hsaid
      cases hsaid

/-! ## What is kept of a datagram -/

/-- Where one list begins like another, both are cut at the same first separator. -/
theorem eq_of_prefix {sep : UInt8} {a a' b b' : Bytes} (ha : sep ∉ a) (ha' : sep ∉ a')
    (hbegins : a ++ sep :: b <+: a' ++ sep :: b') : a = a' ∧ b <+: b' := by
  obtain ⟨rest, hrest⟩ := hbegins
  have hcut : Text.cutFirst sep (a' ++ sep :: b') = some (a', b') :=
    Text.cutFirst_eq_some_iff.2 ⟨rfl, ha'⟩
  have hcut' : Text.cutFirst sep (a' ++ sep :: b') = some (a, b ++ rest) := by
    refine Text.cutFirst_eq_some_iff.2 ⟨?_, ha⟩
    rw [← hrest, List.append_assoc, List.cons_append]
  rw [hcut] at hcut'
  injection hcut' with heq
  injection heq with heq heq'
  exact ⟨heq.symm, rest, heq'.symm⟩

/-- No name of a command begins with a shorter name of the same command. -/
theorem eq_wireName_of_prefix {w : String} (hw : (w, c) ∈ GossipCommand.wireNames)
    (hbegins : Bytes.ofText w <+: Bytes.ofText c.wireName) : w = c.wireName := by
  have hall : ∀ entry ∈ GossipCommand.wireNames,
      (Bytes.ofText entry.1).isPrefixOf (Bytes.ofText entry.2.wireName) = true →
        entry.1 = entry.2.wireName := by
    decide +kernel
  exact hall (w, c) hw (List.isPrefixOf_iff_prefix.2 hbegins)

/-- A heartbeat is read from the beginning of its datagram exactly if that is all of it and no field
holds a space. -/
theorem announced?_take_iff (haddress : h.address ≠ "")
    (hstatus : Decimal.minInt32 ≤ h.status ∧ h.status ≤ Decimal.maxInt32) (limit : Nat) :
    announced? ((h.encode c).take limit) = some (c, h) ↔
      h.IsSpaceless ∧ (h.encode c).length ≤ limit := by
  constructor
  · intro hsaid
    obtain ⟨data, name, -, hkept, -, hcommand, hparse⟩ := announced?_eq_some_iff.1 hsaid
    obtain ⟨w, hw, rfl⟩ := GossipCommand.ofWire?_eq_some_iff.1 hcommand
    unfold Heartbeat.parse? at hparse
    split at hparse
    · next text htext =>
      obtain rfl := Bytes.text?_eq_some_iff.1 htext
      obtain ⟨⟨-, hspaceless⟩, status, hvalue, hfields⟩ := Heartbeat.ofText?_eq_ok_iff_append.1 hparse
      have hspace := Heartbeat.space_not_mem_of_int32? hvalue
      refine ⟨hspaceless, ?_⟩
      -- Both the datagram and what is kept of it are cut at their first three spaces.
      have hbegins : Bytes.ofText text ++ Envelope.separator :: Bytes.ofText w <+: h.encode c :=
        hkept ▸ List.take_prefix limit (h.encode c)
      have hrest := ofText_of_space (s := String.ofList (h.hostname.toList ++ ' ' :: status))
        (String.toList_ofList ..)
      have hrest' := ofText_of_space
        (s := String.ofList (h.hostname.toList ++ ' ' :: (toString h.status).toList))
        (String.toList_ofList ..)
      unfold Heartbeat.encode Envelope.join at hbegins
      rw [ofText_of_space hfields, ofText_of_space (Heartbeat.toList_text h), hrest, hrest'] at hbegins
      simp only [List.append_assoc, List.cons_append] at hbegins
      obtain ⟨-, hbegins⟩ := eq_of_prefix (separator_not_mem hspaceless.address)
        (separator_not_mem hspaceless.address) hbegins
      obtain ⟨-, hbegins⟩ := eq_of_prefix (separator_not_mem hspaceless.hostname)
        (separator_not_mem hspaceless.hostname) hbegins
      obtain ⟨hsame, hbegins⟩ := eq_of_prefix (separator_not_mem hspace)
        (separator_not_mem (Heartbeat.space_not_mem_toString h.status)) hbegins
      have htail := eq_wireName_of_prefix hw hbegins
      have hwhole : (h.encode c).take limit = h.encode c := by
        unfold Heartbeat.encode Envelope.join at hkept ⊢
        rw [hkept, htail, ofText_of_space hfields, ofText_of_space (Heartbeat.toList_text h), hrest,
          hrest', hsame]
      have hlength := congrArg List.length hwhole
      rw [List.length_take] at hlength
      omega
    · cases hparse
  · rintro ⟨hspaceless, hlength⟩
    rw [List.take_of_length_le hlength]
    exact announced?_encode hspaceless haddress hstatus

end Gossip

/-! ## A controller's announcements -/

namespace Controller

open Gossip (Introduces announced?_take_iff introduces_iff maxDatagram)

variable {s : Settings} {hostname : String} {c : GossipCommand} {h : Heartbeat}

theorem of_mem_announcements (hvalid : s.validate = .ok ())
    (hmem : (c, h) ∈ announcements s hostname) :
    h.address ≠ "" ∧ h.hostname = hostname ∧ h.status = s.status := by
  obtain ⟨-, -, hsplit⟩ := Settings.validate_eq_ok_iff.1 hvalid
  obtain ⟨internal, hinternal⟩ := hsplit s.internalAddr (by simp [Settings.listeners])
  obtain ⟨proxy, hproxy⟩ := hsplit s.proxyAddr (by simp [Settings.listeners])
  unfold announcements at hmem
  simp only [List.mem_cons, List.not_mem_nil, or_false] at hmem
  rcases hmem with heq | heq
  · injection heq with hc hh
    subst hc hh
    exact ⟨Address.ne_empty_of_split? hproxy, rfl, rfl⟩
  · injection heq with hc hh
    subst hc hh
    exact ⟨Address.ne_empty_of_split? hinternal, rfl, rfl⟩

/-- What a controller with a checked configuration sends on a tick is heard, by a receiver that does not
know the address yet, exactly if all of the datagram is received and neither address nor hostname holds
a space. -/
theorem announcement_heard_iff (s : Settings) (machine : String) (hvalid : s.validate = .ok ())
    (hstatus : Decimal.minInt32 ≤ s.status ∧ s.status ≤ Decimal.maxInt32)
    (own : Registry) (sent : Moment) (maxAge : Span) :
    ∀ datagram ∈ (Gossip.tick own (announcements s (s.announcedName machine)) sent maxAge).1,
      ∃ c h, (c, h) ∈ announcements s (s.announcedName machine) ∧ datagram = h.encode c ∧
        ∀ (r : Registry) (now : Moment), r.endpoints.get? h.address = none →
          (Introduces (datagram.take maxDatagram) c h r now ↔
            h.IsSpaceless ∧ datagram.length ≤ maxDatagram) := by
  intro datagram hsent
  obtain ⟨⟨c, h⟩, hmem, rfl⟩ := List.mem_map.1 hsent
  obtain ⟨haddress, -, hcode⟩ := of_mem_announcements hvalid hmem
  refine ⟨c, h, hmem, rfl, ?_⟩
  intro r now hnew
  rw [introduces_iff hnew]
  exact announced?_take_iff haddress (hcode ▸ hstatus) maxDatagram

theorem default_announcement_heard_iff :
    Settings.defaults.validate = .ok () ∧
      (Decimal.minInt32 ≤ Settings.defaults.status ∧
        Settings.defaults.status ≤ Decimal.maxInt32) ∧
      ∀ datagram ∈ (Gossip.tick (.empty false) (announcements .defaults "node") ⟨0⟩ (.ofSeconds 6)).1,
        ∃ c h, (c, h) ∈ announcements .defaults "node" ∧ datagram = h.encode c ∧
          ∀ (r : Registry) (now : Moment), r.endpoints.get? h.address = none →
            (Introduces (datagram.take maxDatagram) c h r now ↔
              h.IsSpaceless ∧ datagram.length ≤ maxDatagram) :=
  ⟨rfl, by decide,
    announcement_heard_iff .defaults "node" rfl (by decide) (.empty false) ⟨0⟩ (.ofSeconds 6)⟩

/-- The default settings but for the name. -/
def spacedName : Settings := { Settings.defaults with hostname := some "node one" }

/-- The check lets a name with a space pass, and then nothing that is sent is heard. -/
theorem spaced_name_is_not_heard :
    spacedName.validate = .ok () ∧
      ¬∀ datagram ∈ (Gossip.tick (.empty false) (announcements spacedName (spacedName.announcedName ""))
          ⟨0⟩ (.ofSeconds 6)).1,
        ∃ c h, (c, h) ∈ announcements spacedName (spacedName.announcedName "") ∧
          datagram = h.encode c ∧
          Introduces (datagram.take maxDatagram) c h (.empty false) (.ofParts 1 0) := by
  refine ⟨rfl, ?_⟩
  intro hheard
  obtain ⟨c, h, -, -, hintroduced⟩ := hheard _ (List.mem_cons_self ..)
  have hunheard : (Gossip.receive (.empty false) ((Heartbeat.encode
      ⟨Settings.defaults.proxyAddr, "node one", 1⟩ .controllerProxy).take maxDatagram)
      (.ofParts 1 0)).2 = none := by
    decide +kernel
  cases hunheard.symm.trans hintroduced.joined

end Controller

end HostFleet
