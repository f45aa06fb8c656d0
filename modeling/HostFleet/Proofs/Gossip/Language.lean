import HostFleet.Proofs.Gossip.Codec

/-! # The datagrams that are heard

A heartbeat is four fields with a space between each and the next. From an address that is not stored it
makes a new endpoint, from any other it only renews the time; what is no heartbeat can do no more than
renew the time of one endpoint.

* `IsHeartbeat`: the four fields; `isHeartbeat_iff`: no other datagram is read as a heartbeat.
* `Gains`, `Renews`: what a new and a known address change; nothing else is touched.
* `Reception`: all that a datagram can do; `receives`: nothing else happens.
* `heartbeats_are_recognised`: which datagrams are answered how, and what they change.
-/

set_option autoImplicit false

namespace HostFleet.Gossip

open Registry

variable {r : Registry} {datagram : Bytes} {now : Moment} {c : GossipCommand} {h : Heartbeat}

/-! ## The form of a heartbeat -/

/-- Address, hostname, status and command, with a space between each and the next. -/
structure IsHeartbeat (datagram : Bytes) (c : GossipCommand) (h : Heartbeat) : Prop where
  address_ne : h.address ≠ ""
  spaceless : h.IsSpaceless
  bounds : Decimal.minInt32 ≤ h.status ∧ h.status ≤ Decimal.maxInt32
  fields : ∃ status name : String,
    Decimal.Spells status.toList h.status ∧ (name, c) ∈ GossipCommand.wireNames ∧
      datagram = Bytes.ofText h.address ++ Envelope.separator ::
        (Bytes.ofText h.hostname ++ Envelope.separator ::
          (Bytes.ofText status ++ Envelope.separator :: Bytes.ofText name))

theorem ofText_fields {text : String} {a b s : String}
    (htext : text.toList = a.toList ++ ' ' :: (b.toList ++ ' ' :: s.toList)) :
    Bytes.ofText text = Bytes.ofText a ++ Envelope.separator ::
      (Bytes.ofText b ++ Envelope.separator :: Bytes.ofText s) := by
  have hbehind := ofText_of_space (s := String.ofList (b.toList ++ ' ' :: s.toList))
    (String.toList_ofList ..)
  rw [ofText_of_space htext, hbehind]
  simp only [String.ofList_toList]

theorem isHeartbeat_iff : IsHeartbeat datagram c h ↔ announced? datagram = some (c, h) := by
  rw [announced?_eq_some_iff]
  constructor
  · rintro ⟨hne, hspaceless, hbounds, status, name, hspells, hname, rfl⟩
    have htext := String.toList_ofList
      (l := h.address.toList ++ ' ' :: (h.hostname.toList ++ ' ' :: status.toList))
    refine ⟨_, Bytes.ofText name, ?_, ?_, GossipCommand.separator_not_mem_of_mem hname,
      GossipCommand.ofWire?_eq_some_iff.2 ⟨name, hname, rfl⟩,
      Heartbeat.parse?_eq_ok_iff.2 ⟨_, rfl, Heartbeat.ofText?_eq_ok_iff_append.2
        ⟨⟨hne, hspaceless⟩, status.toList, ?_, htext⟩⟩⟩
    · rw [ofText_fields htext]
      exact List.append_ne_nil_of_left_ne_nil (Bytes.ofText_ne_nil hne) _
    · rw [ofText_fields htext]
      simp only [List.append_assoc, List.cons_append]
    · exact Decimal.signed?_eq_some_iff.2 ⟨hspells, hbounds⟩
  · rintro ⟨data, name, -, rfl, -, hcommand, hread⟩
    obtain ⟨w, hw, rfl⟩ := GossipCommand.ofWire?_eq_some_iff.1 hcommand
    obtain ⟨text, rfl, hok⟩ := Heartbeat.parse?_eq_ok_iff.1 hread
    obtain ⟨⟨hne, hspaceless⟩, status, hvalue, htext⟩ := Heartbeat.ofText?_eq_ok_iff_append.1 hok
    obtain ⟨hspells, hbounds⟩ := Decimal.signed?_eq_some_iff.1 hvalue
    rw [← String.toList_ofList (l := status)] at htext hspells
    refine ⟨hne, hspaceless, hbounds, String.ofList status, w, hspells, hw, ?_⟩
    rw [ofText_fields htext]
    simp only [List.append_assoc, List.cons_append]

/-! ## What changes -/

/-- The records, their owners and the assignments are the same. -/
structure SameRest (r s : Registry) : Prop where
  records : SameRecords r s
  assignments : s.assignments = r.assignments
  lastAssignment : s.lastAssignment = r.lastAssignment

/-- The endpoint is there, with its role, and nothing else is new. -/
structure Gains (e : Endpoint) (r s : Registry) : Prop where
  endpoints : ∀ a, s.endpoints.get? a = if a = e.address then some e else r.endpoints.get? a
  roles : ∀ role a, (s.roles.of role).contains a = true ↔
    (role = e.role ∧ a = e.address) ∨ (r.roles.of role).contains a = true
  rest : SameRest r s

/-- The endpoint under the address was seen now, and nothing else is new. -/
structure Renews (a : String) (e : Endpoint) (now : Moment) (r s : Registry) : Prop where
  endpoints : ∀ b, s.endpoints.get? b =
    if b = a then some { e with lastSeen := now } else r.endpoints.get? b
  roles : s.roles = r.roles
  rest : SameRest r s

theorem gains_addEndpoint {e : Endpoint} (hnew : r.endpoints.get? e.address = none) :
    Gains e r (r.addEndpoint e) := by
  refine ⟨get?_addEndpoint r e, ?_, sameRecords_addEndpoint r e, rfl, rfl⟩
  intro role a
  have hroles : (r.addEndpoint e).roles = r.roles.insert e.role e.address := by
    unfold addEndpoint
    simp only [hnew]
  rw [hroles]
  exact RoleIndex.contains_insert

theorem renews_refresh {a : String} {e : Endpoint} (hknown : r.endpoints.get? a = some e)
    (now : Moment) : Renews a e now r (r.refresh a now) := by
  refine ⟨fun b => ?_, rfl, sameRecords_refresh r a now, rfl, rfl⟩
  rw [get?_refresh, hknown]
  rfl

theorem Gains.of_get?_eq_none {e : Endpoint} {s : Registry} (hgains : Gains e r s) {a : String}
    (ha : s.endpoints.get? a = none) : r.endpoints.get? a = none := by
  rw [hgains.endpoints] at ha
  split at ha
  · cases ha
  · exact ha

theorem Renews.get?_eq_none_iff {a : String} {e : Endpoint} {s : Registry}
    (hknown : r.endpoints.get? a = some e) (hrenews : Renews a e now r s) {b : String} :
    s.endpoints.get? b = none ↔ r.endpoints.get? b = none := by
  rw [hrenews.endpoints]
  split
  · next hb =>
    rw [hb, hknown]
    exact iff_of_false (fun h => nomatch h) fun h => nomatch h
  · exact Iff.rfl

/-! ## What a datagram does -/

/-- What a datagram can do, with its answer. -/
inductive Reception (r : Registry) (datagram : Bytes) (now : Moment) :
    Registry → Option HeartbeatOutcome → Prop where
  | joined {c : GossipCommand} {h : Heartbeat} (said : IsHeartbeat datagram c h)
    (unknown : r.endpoints.get? h.address = none) :
    Reception r datagram now
      (r.addEndpoint ⟨h.address, h.hostname, c.role, h.status, now, .peer⟩) (some .joined)
  | refreshed {a : String} {e : Endpoint} (about : subject? datagram = some a)
    (known : r.endpoints.get? a = some e) :
    Reception r datagram now (r.refresh a now) (some .refreshed)
  | ignored (unsaid : ∀ c h, ¬IsHeartbeat datagram c h)
    (unknown : ∀ a, subject? datagram = some a → r.endpoints.get? a = none) :
    Reception r datagram now r none

theorem receives (r : Registry) (datagram : Bytes) (now : Moment) :
    Reception r datagram now (receive r datagram now).1 (receive r datagram now).2 := by
  have hunheard : announced? datagram = none → ∀ c h, ¬IsHeartbeat datagram c h := by
    intro hnone c h hsaid
    rw [isHeartbeat_iff.1 hsaid] at hnone
    cases hnone
  rcases receive_cases r datagram now with
    ⟨c, h, hsaid, hr⟩ | ⟨hunsaid, a, hsuspect, hr⟩ | ⟨hunsaid, hunsuspect, hr⟩
  · cases hknown : r.endpoints.get? h.address with
    | none =>
      rw [hr, recordHeartbeat_of_get?_eq_none hknown]
      exact .joined (isHeartbeat_iff.2 hsaid) hknown
    | some e =>
      rw [hr, recordHeartbeat_of_get?_eq_some hknown]
      exact .refreshed (subject?_of_announced hsaid) hknown
  · have habout := (subject?_of_not_announced hunsaid).trans hsuspect
    cases hknown : r.endpoints.get? a with
    | none =>
      have hnot : ¬r.endpoints.contains a = true := by simp [Book.contains, hknown]
      rw [hr, if_neg hnot]
      refine .ignored (hunheard hunsaid) fun b hb => ?_
      rw [habout] at hb
      injection hb with hb
      exact hb ▸ hknown
    | some e =>
      rw [hr, if_pos (Book.contains_iff.2 ⟨e, hknown⟩)]
      exact .refreshed habout hknown
  · have habout := (subject?_of_not_announced hunsaid).trans hunsuspect
    rw [hr]
    refine .ignored (hunheard hunsaid) fun b hb => ?_
    rw [habout] at hb
    cases hb

section
variable {s : Registry} {answer : Option HeartbeatOutcome}

theorem IsHeartbeat.get?_eq_some {a : String} {e : Endpoint} (hsaid : IsHeartbeat datagram c h)
    (habout : subject? datagram = some a) (hknown : r.endpoints.get? a = some e) :
    r.endpoints.get? h.address = some e := by
  have hsubject := (subject?_of_announced (isHeartbeat_iff.1 hsaid)).symm.trans habout
  injection hsubject with hsubject
  rw [hsubject]
  exact hknown

/-- A heartbeat of an address that is not stored does one thing only. -/
theorem Reception.eq_joined (hreceives : Reception r datagram now s answer)
    (hsaid : IsHeartbeat datagram c h) (hunknown : r.endpoints.get? h.address = none) :
    s = r.addEndpoint ⟨h.address, h.hostname, c.role, h.status, now, .peer⟩ ∧
      answer = some .joined := by
  cases hreceives with
  | @joined c' h' said unknown =>
    have hsame := (isHeartbeat_iff.1 said).symm.trans (isHeartbeat_iff.1 hsaid)
    injection hsame with hsame
    injection hsame with hc hh
    rw [hc, hh]
    exact ⟨rfl, rfl⟩
  | refreshed about known =>
    rw [hsaid.get?_eq_some about known] at hunknown
    cases hunknown
  | ignored unsaid unknown => exact absurd hsaid (unsaid c h)

theorem Reception.joined_iff (hreceives : Reception r datagram now s answer) :
    answer = some .joined ↔
      ∃ c h, IsHeartbeat datagram c h ∧ r.endpoints.get? h.address = none := by
  constructor
  · intro hanswer
    cases hreceives with
    | @joined c h said unknown => exact ⟨c, h, said, unknown⟩
    | refreshed about known => cases hanswer
    | ignored unsaid unknown => cases hanswer
  · rintro ⟨c, h, hsaid, hunknown⟩
    exact (hreceives.eq_joined hsaid hunknown).2

theorem Reception.renews (hreceives : Reception r datagram now s (some .refreshed)) :
    ∃ a e, r.endpoints.get? a = some e ∧ Renews a e now r s := by
  cases hreceives with
  | refreshed about known => exact ⟨_, _, known, renews_refresh known now⟩

theorem Reception.eq_of_none (hreceives : Reception r datagram now s none) : s = r := by
  cases hreceives with
  | ignored unsaid unknown => rfl

theorem Reception.of_get?_eq_none (hreceives : Reception r datagram now s answer) {a : String}
    (ha : s.endpoints.get? a = none) : r.endpoints.get? a = none := by
  cases hreceives with
  | joined said unknown => exact (gains_addEndpoint unknown).of_get?_eq_none ha
  | refreshed about known => exact ((renews_refresh known now).get?_eq_none_iff known).1 ha
  | ignored unsaid unknown => exact ha

theorem Reception.rest (hreceives : Reception r datagram now s answer) : SameRest r s := by
  cases hreceives with
  | joined said unknown => exact (gains_addEndpoint unknown).rest
  | refreshed about known => exact (renews_refresh known now).rest
  | ignored unsaid unknown => exact ⟨.refl r, rfl, rfl⟩

theorem Reception.unknown_stays (hreceives : Reception r datagram now s answer)
    (hunsaid : ∀ c h, ¬IsHeartbeat datagram c h) {a : String} (ha : r.endpoints.get? a = none) :
    s.endpoints.get? a = none := by
  cases hreceives with
  | joined said unknown => exact absurd said (hunsaid _ _)
  | refreshed about known => exact ((renews_refresh known now).get?_eq_none_iff known).2 ha
  | ignored unsaid unknown => exact ha

end

/-- A datagram is answered by a join exactly if it is a heartbeat of an address that is not stored; then
a peer is stored under it as it announces itself. The only other answer goes with a new time for one
stored endpoint. Without an answer nothing changes, and with any answer no endpoint goes, no record and
no assignment changes, and nothing joins but by a heartbeat. -/
theorem heartbeats_are_recognised (r : Registry) (datagram : Bytes) (now : Moment) :
    let s := (receive r datagram now).1
    let answer := (receive r datagram now).2
    (answer = some .joined ↔
      ∃ c h, IsHeartbeat datagram c h ∧ r.endpoints.get? h.address = none) ∧
    (∀ c h, IsHeartbeat datagram c h → r.endpoints.get? h.address = none →
      Gains ⟨h.address, h.hostname, c.role, h.status, now, .peer⟩ r s) ∧
    (answer = some .refreshed → ∃ a e, r.endpoints.get? a = some e ∧ Renews a e now r s) ∧
    (answer = none → s = r) ∧
    (∀ a, s.endpoints.get? a = none → r.endpoints.get? a = none) ∧
    SameRest r s ∧
    ((∀ c h, ¬IsHeartbeat datagram c h) →
      ∀ a, r.endpoints.get? a = none → s.endpoints.get? a = none) := by
  intro s answer
  have hreceives : Reception r datagram now s answer := receives r datagram now
  refine ⟨hreceives.joined_iff, ?_, ?_, ?_, fun a => hreceives.of_get?_eq_none, hreceives.rest,
    fun hunsaid a => hreceives.unknown_stays hunsaid⟩
  · intro c h hsaid hunknown
    rw [(hreceives.eq_joined hsaid hunknown).1]
    exact gains_addEndpoint hunknown
  · intro hanswer
    rw [hanswer] at hreceives
    exact hreceives.renews
  · intro hanswer
    rw [hanswer] at hreceives
    exact hreceives.eq_of_none

/-- The old name of a command, an empty hostname, and a status with a sign and leading zeros. -/
def oddHeartbeat : Bytes := Bytes.ofText "tcp://10.0.0.5:4243  +007 docker_internal_heartbeat"

theorem odd_heartbeat_joins :
    IsHeartbeat oddHeartbeat .containerRuntimeInternal ⟨"tcp://10.0.0.5:4243", "", 7⟩ ∧
      (Registry.empty true).endpoints.get? "tcp://10.0.0.5:4243" = none ∧
      (receive (.empty true) oddHeartbeat ⟨0⟩).2 = some .joined ∧
      Gains ⟨"tcp://10.0.0.5:4243", "", .containerRuntimeInternal, 7, ⟨0⟩, .peer⟩ (.empty true)
        (receive (.empty true) oddHeartbeat ⟨0⟩).1 := by
  have hsaid : IsHeartbeat oddHeartbeat .containerRuntimeInternal ⟨"tcp://10.0.0.5:4243", "", 7⟩ :=
    { address_ne := by decide
      spaceless := ⟨by decide, by decide⟩
      bounds := by decide
      fields := ⟨"+007", "docker_internal_heartbeat", .plus (Decimal.natural?_eq_some_iff.1 rfl),
        by decide, by decide +kernel⟩ }
  have hrecognised := heartbeats_are_recognised (.empty true) oddHeartbeat ⟨0⟩
  exact ⟨hsaid, rfl, hrecognised.1.2 ⟨_, _, hsaid, rfl⟩, hrecognised.2.1 _ _ hsaid rfl⟩

end HostFleet.Gossip
