import HostFleet.Proofs.Address.Literal
import HostFleet.Proofs.Report.Effect
import HostFleet.Proofs.Report.Ownership
import HostFleet.Proofs.Text.Utf8

/-! # To whom a record belongs

A record belongs to the host that it names, or else to the runtime host at the reporter's IP.

* `Address.Names`: the host part of an address is the literal of an IP; `Address.ip?_eq_some_iff`.
* `Registry.HostsAt`: the addresses among which the owner is chosen.
* `IsOwner`: the host that is named, or else the least of these addresses, byte by byte.
* `records_are_attributed`: every record has its owner, and a host that is heard at its socket is found.
* `linked_host_is_found`: one at a link-local address.
-/

set_option autoImplicit false

namespace HostFleet

namespace Address

/-- The host part, before the last colon, is the literal of the IP, with brackets around it or without. -/
def Names (address : String) (ip : Ip) : Prop :=
  ∃ host port : List Char, authorityList address.toList = host ++ ':' :: port ∧ ':' ∉ port ∧
    Ip.read? (unbracket host) = some ip

theorem ip?_eq_some_iff {address : String} {ip : Ip} : ip? address = some ip ↔ Names address ip := by
  unfold ip? Names
  simp only [Option.bind_eq_some_iff, Prod.exists, Text.cutLast_eq_some_iff, and_assoc]

end Address

namespace Registry

open Report (Resource)

variable {r : Registry} {ip : Ip} {x : Resource} {address : String}

/-- A runtime host whose address names the IP is stored under the address. -/
structure HostsAt (r : Registry) (ip : Ip) (address : String) : Prop where
  stored : ∃ e, r.endpoints.get? address = some e ∧ e.role = .containerRuntimeInternal
  names : Address.Names address ip

/-- No agent and no controller is stored there. -/
theorem HostsAt.role (h : r.HostsAt ip address) {e : Endpoint}
    (he : r.endpoints.get? address = some e) : e.role = .containerRuntimeInternal := by
  obtain ⟨e', he', hrole⟩ := h.stored
  rw [he] at he'
  injection he' with heq
  rw [heq]
  exact hrole

/-- The owner of a record that names the host `named`, if the other hosts in question are these. -/
structure IsOwner (candidate : String → Prop) (named owner : String) : Prop where
  kept : named ≠ "" → owner = named
  found : named = "" → (∃ address, candidate address) → candidate owner
  least : named = "" → ∀ address, candidate address → Bytes.ofText owner ≤ Bytes.ofText address
  unowned : named = "" → (¬∃ address, candidate address) → owner = ""

/-- There is one owner. -/
theorem IsOwner.eq {candidate : String → Prop} {named owner owner' : String}
    (h : IsOwner candidate named owner) (h' : IsOwner candidate named owner') : owner = owner' := by
  by_cases hnamed : named = ""
  · by_cases hsome : ∃ address, candidate address
    · have hle := Bytes.ofText_le_ofText_iff.1 (h.least hnamed owner' (h'.found hnamed hsome))
      have hle' := Bytes.ofText_le_ofText_iff.1 (h'.least hnamed owner (h.found hnamed hsome))
      exact String.le_antisymm hle hle'
    · rw [h.unowned hnamed hsome, h'.unowned hnamed hsome]
  · rw [h.kept hnamed, h'.kept hnamed]

theorem Consistent.hostsAt_iff (h : r.Consistent) : r.HostsAt ip address ↔
    ∃ e ∈ r.members .containerRuntimeInternal,
      (Address.ip? e.address == some ip) = true ∧ e.address = address := by
  constructor
  · rintro ⟨⟨e, he, hrole⟩, hnames⟩
    obtain rfl := h.indexed.address_eq he
    refine ⟨e, h.indexed.mem_members_iff.2 ⟨he, hrole⟩, ?_, rfl⟩
    rw [Address.ip?_eq_some_iff.2 hnames, beq_self_eq_true]
  · rintro ⟨e, he, hip, rfl⟩
    obtain ⟨hstored, hrole⟩ := h.indexed.mem_members_iff.1 he
    exact ⟨⟨e, hstored, hrole⟩, Address.ip?_eq_some_iff.1 (beq_iff_eq.1 hip)⟩

/-- The first member in the order of the addresses is the least. -/
theorem Consistent.isOwner_ownerFor (h : r.Consistent) (ip : Ip) :
    IsOwner (r.HostsAt ip) "" (Resource.ownerFor r (some ip)) := by
  unfold Resource.ownerFor
  rw [Option.bind_some]
  unfold Registry.runtimeHostAt
  have hsorted := h.indexed.members_sorted .containerRuntimeInternal
  cases hfind : (r.members .containerRuntimeInternal).find? fun e => Address.ip? e.address == some ip with
  | none =>
    have hnone : ∀ address, ¬r.HostsAt ip address := by
      intro address haddress
      obtain ⟨e, he, hip, -⟩ := h.hostsAt_iff.1 haddress
      exact List.find?_eq_none.1 hfind e he hip
    exact ⟨fun hne => absurd rfl hne, fun _ ⟨address, haddress⟩ => absurd haddress (hnone address),
      fun _ address haddress => absurd haddress (hnone address), fun _ _ => rfl⟩
  | some first =>
    have hnames := List.find?_some hfind
    have hfirst : r.HostsAt ip first.address :=
      h.hostsAt_iff.2 ⟨first, List.mem_of_find?_eq_some hfind, hnames, rfl⟩
    refine ⟨fun hne => absurd rfl hne, fun _ _ => hfirst, fun _ address haddress => ?_,
      fun _ hnone => absurd ⟨_, hfirst⟩ hnone⟩
    obtain ⟨e, he, hip, rfl⟩ := h.hostsAt_iff.1 haddress
    -- what stands before the first one does not name the IP
    obtain ⟨before, after, hmembers, hbefore⟩ := (List.find?_eq_some_iff_append.1 hfind).2
    rw [hmembers] at he hsorted
    refine Bytes.ofText_le_ofText_iff.2 ?_
    rcases List.mem_append.1 he with he | he
    · have hno := hbefore e he
      rw [hip] at hno
      cases hno
    · rcases List.mem_cons.1 he with rfl | he
      · exact String.le_refl _
      · have hlt := (List.pairwise_append.1 hsorted).2.1
        exact String.not_lt.1 (String.lt_asymm (List.rel_of_pairwise_cons hlt he))

theorem Consistent.isOwner_withOwner (h : r.Consistent) (ip : Ip) (x : Resource) :
    IsOwner (r.HostsAt ip) x.host (x.withOwner r (some ip)).host := by
  by_cases hx : x.host = ""
  · rw [Report.Shared.host_withOwner r (some ip) hx, hx]
    exact h.isOwner_ownerFor ip
  · have hempty : ¬x.host.isEmpty = true := mt String.isEmpty_iff.1 hx
    unfold Resource.withOwner
    rw [if_neg hempty]
    exact ⟨fun _ => rfl, fun hnone => absurd hnone hx, fun hnone => absurd hnone hx,
      fun hnone => absurd hnone hx⟩

/-- Nothing but the host of a record is changed. -/
theorem withOwner_eq (r : Registry) (peer : Option Ip) (x : Resource) :
    x.withOwner r peer = x.withHost (x.withOwner r peer).host := by
  unfold Resource.withOwner
  split <;> cases x <;> rfl

/-- A runtime host that is heard stands under its address, if nobody else did. -/
theorem hostsAt_recordHeartbeat (hnames : Address.Names address ip)
    (hrole : ∀ e, r.endpoints.get? address = some e → e.role = .containerRuntimeInternal)
    (hostname : String) (status : Int) (now : Moment) :
    (r.recordHeartbeat address hostname .containerRuntimeInternal status now).1.HostsAt ip address := by
  refine ⟨?_, hnames⟩
  unfold recordHeartbeat
  split
  · next hknown =>
    obtain ⟨e, he⟩ := Book.contains_iff.1 hknown
    refine ⟨{ e with lastSeen := now }, ?_, hrole e he⟩
    rw [get?_refresh, if_pos rfl, he]
    rfl
  · refine ⟨⟨address, hostname, .containerRuntimeInternal, status, now, .peer⟩, ?_, rfl⟩
    rw [get?_addEndpoint, if_pos rfl]

open Report in
/-- In every registry that is reached from an empty one, a record that names its host keeps it, and any other
belongs to the runtime host with the least address that names the reporter's IP, to nobody if there is none.
So it is with every record of a report. A host is found from its IP once it is heard at its socket, whatever
scheme and port it has. -/
theorem records_are_attributed (cascade : Bool) (ops : List Operation) (ip : Ip) :
    let r := (Registry.empty cascade).run ops
    (∀ x : Resource,
      let owner := (x.withOwner r (some ip)).host
      IsOwner (r.HostsAt ip) x.host owner ∧
      x.withOwner r (some ip) = x.withHost owner ∧
      (x.host = "" → owner ≠ "" → ∀ e, r.endpoints.get? owner = some e →
        e.role = .containerRuntimeInternal)) ∧
    (∀ payload resources, Reporter.change? payload = .ok (.take resources) → ∀ kind id,
      (handlePayload r (some ip) payload).1.record? kind id =
        (lastOf? kind id (resources.map fun x => x.withOwner r (some ip))).or (r.record? kind id)) ∧
    ∀ (scheme : String) (port : Nat), ¬Address.schemeMark <:+: scheme.toList →
      let address := Address.endpointText scheme ip port
      Address.ip? address = some ip ∧
      ((∀ e, r.endpoints.get? address = some e → e.role = .containerRuntimeInternal) →
        ∀ hostname status now,
          let s := (r.recordHeartbeat address hostname .containerRuntimeInternal status now).1
          ∀ x : Resource, x.host = "" → s.HostsAt ip (x.withOwner s (some ip)).host) := by
  intro r
  have hr : r.Consistent := (Consistent.empty cascade).run ops
  refine ⟨fun x => ⟨hr.isOwner_withOwner ip x, withOwner_eq r (some ip) x, ?role⟩, ?payload, ?socket⟩
  case role =>
    intro hx hne e he
    have howner := hr.isOwner_withOwner ip x
    by_cases hsome : ∃ address, r.HostsAt ip address
    · exact (howner.found hx hsome).role he
    · exact absurd (howner.unowned hx hsome) hne
  case payload =>
    intro payload resources hchange kind id
    rw [(handlePayload_of_ok hchange).1]
    exact record?_take r (some ip) resources kind id
  case socket =>
    intro scheme port hscheme address
    have hip : Address.ip? address = some ip := Address.ip?_endpointText hscheme ip port
    refine ⟨hip, ?_⟩
    intro hrole hostname status now s x hx
    have hs : s.Consistent := hr.recordHeartbeat address hostname .containerRuntimeInternal status now
    have hheard : s.HostsAt ip address :=
      hostsAt_recordHeartbeat (Address.ip?_eq_some_iff.1 hip) hrole hostname status now
    exact (hs.isOwner_withOwner ip x).found hx ⟨address, hheard⟩

/-- A host that is heard at a link-local address has the containers that are reported from there. -/
theorem linked_host_is_found :
    let ip : Ip := .v6 #v[0xFE80, 0, 0, 0, 0, 0, 0, 1]
    let address := "http://[fe80::1]:2375"
    let s := ((Registry.empty true).recordHeartbeat address "linked" .containerRuntimeInternal 0 ⟨0⟩).1
    let x : Resource := .container ⟨"abc", "", "", 0, "", [], "", []⟩
    ¬Address.schemeMark <:+: "http".toList ∧ Address.endpointText "http" ip 2375 = address ∧
      Address.ip? address = some ip ∧ s.HostsAt ip (x.withOwner s (some ip)).host := by
  intro ip address s x
  have hscheme : ¬Address.schemeMark <:+: "http".toList := by decide +kernel
  have haddress : Address.endpointText "http" ip 2375 = address := by decide +kernel
  obtain ⟨hip, hfound⟩ := (records_are_attributed true [] ip).2.2 "http" 2375 hscheme
  have hempty : ∀ e, (Registry.empty true).endpoints.get? (Address.endpointText "http" ip 2375) = some e →
      e.role = .containerRuntimeInternal := nofun
  have hheard := hfound hempty "linked" 0 ⟨0⟩ x rfl
  rw [haddress] at hip hheard
  exact ⟨hscheme, haddress, hip, hheard⟩

end Registry

end HostFleet
