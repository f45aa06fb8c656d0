import HostFleet.Proofs.Gossip.Language
import Mathlib.Data.List.TakeWhile

/-! # The sender of a datagram

A datagram with the command of a heartbeat is about the address that its data begins with. If the address
is stored, its time is renewed even if the rest is no heartbeat, but only if that rest is text.

* `sender?_eq_some_iff`: the sender is what stands before the first space of a text.
* `subject?_of_split`: whether or not the data is a heartbeat, the datagram is about its sender.
* `known_sender_is_refreshed_iff`: when a stored sender is refreshed, and what changes.
-/

set_option autoImplicit false

namespace HostFleet.Gossip

open Registry

variable {r : Registry} {datagram data name : Bytes} {now : Moment} {c : GossipCommand} {h : Heartbeat}
variable {a : String}

/-! ## The address that a datagram begins with -/

theorem takeWhile_ofText (s : String) :
    (Bytes.ofText s).takeWhile (· != Envelope.separator) =
      Bytes.ofText (String.ofList (s.toList.takeWhile (· != ' '))) := by
  have hjoin := List.takeWhile_append_dropWhile (p := (· != ' ')) (l := s.toList)
  have hfront : ' ' ∉ s.toList.takeWhile (· != ' ') := by
    intro hmem
    have hne := List.all_eq_true.1 List.all_takeWhile _ hmem
    exact absurd hne (by decide)
  have hbytes : ∀ b ∈ Bytes.ofText (String.ofList (s.toList.takeWhile (· != ' '))),
      (b != Envelope.separator) = true := by
    intro b hb
    refine bne_iff_ne.2 ?_
    rintro rfl
    exact separator_not_mem hfront hb
  have hhead := List.head?_dropWhile_not (· != ' ') s.toList
  cases hrest : s.toList.dropWhile (· != ' ') with
  | nil =>
    rw [hrest, List.append_nil] at hjoin
    rw [hjoin, String.ofList_toList] at hbytes ⊢
    exact List.takeWhile_eq_self_iff.2 hbytes
  | cons x rest =>
    rw [hrest] at hhead hjoin
    have hx : x = ' ' := by simpa using hhead
    subst hx
    rw [ofText_of_space hjoin.symm, List.takeWhile_append_of_pos hbytes,
      List.takeWhile_cons_of_neg (by simp), List.append_nil]

/-- The sender is the first field, if all is text and that field is not empty. -/
theorem sender?_eq_some_iff : sender? data = some a ↔
    (∃ text, data = Bytes.ofText text) ∧ a ≠ "" ∧
      data.takeWhile (· != Envelope.separator) = Bytes.ofText a := by
  unfold sender?
  rw [Option.bind_eq_some_iff]
  constructor
  · rintro ⟨text, htext, hfound⟩
    obtain rfl := Bytes.text?_eq_some_iff.1 htext
    dsimp only at hfound
    split at hfound
    · cases hfound
    · next hne =>
      injection hfound with hfound
      subst hfound
      refine ⟨⟨text, rfl⟩, ?_, takeWhile_ofText text⟩
      rw [ne_eq, String.ofList_eq_empty_iff, ← List.isEmpty_iff]
      exact hne
  · rintro ⟨⟨text, rfl⟩, hne, hfirst⟩
    rw [takeWhile_ofText] at hfirst
    obtain rfl := Bytes.ofText_injective hfirst
    refine ⟨text, Bytes.text?_ofText text, if_neg ?_⟩
    rw [List.isEmpty_iff, ← String.ofList_eq_empty_iff]
    exact hne

theorem sender?_of_parse? (hread : Heartbeat.parse? data = .ok h) :
    sender? data = some h.address := by
  obtain ⟨text, rfl, hok⟩ := Heartbeat.parse?_eq_ok_iff.1 hread
  obtain ⟨⟨hne, hspaceless⟩, status, -, htext⟩ := Heartbeat.ofText?_eq_ok_iff_append.1 hok
  refine sender?_eq_some_iff.2 ⟨⟨text, rfl⟩, hne, ?_⟩
  have hall : ∀ x ∈ h.address.toList, (x != ' ') = true := by
    intro x hx
    refine bne_iff_ne.2 ?_
    rintro rfl
    exact hspaceless.address hx
  rw [takeWhile_ofText, htext, List.takeWhile_append_of_pos hall,
    List.takeWhile_cons_of_neg (by simp), List.append_nil, String.ofList_toList]

/-- A heartbeat or not, a datagram with a known command is about the sender of its data. -/
theorem subject?_of_split (hsplit : Envelope.split datagram = some (data, name))
    (hcommand : GossipCommand.ofWire? name = some c) : subject? datagram = sender? data := by
  unfold subject? announced? suspected?
  rw [hsplit]
  simp only [hcommand]
  cases hread : Heartbeat.parse? data with
  | ok h =>
    rw [sender?_of_parse? hread]
    rfl
  | error fault => rfl

/-- Behind the first field of a text there is text. -/
theorem exists_text_iff (hfirst : data.takeWhile (· != Envelope.separator) = Bytes.ofText a) :
    (∃ text, data = Bytes.ofText text) ↔ ∃ rest, data = Bytes.ofText a ++ Bytes.ofText rest := by
  constructor
  · rintro ⟨text, rfl⟩
    rw [takeWhile_ofText] at hfirst
    obtain rfl := Bytes.ofText_injective hfirst
    refine ⟨String.ofList (text.toList.dropWhile (· != ' ')), ?_⟩
    rw [Bytes.ofText_ofList, Bytes.ofText_ofList, ← List.flatMap_append,
      List.takeWhile_append_dropWhile, Bytes.ofText_eq_flatMap]
  · rintro ⟨rest, rfl⟩
    refine ⟨a ++ rest, ?_⟩
    rw [Bytes.ofText_eq_flatMap (a ++ rest), String.toList_append, List.flatMap_append,
      ← Bytes.ofText_eq_flatMap, ← Bytes.ofText_eq_flatMap]

/-! ## A stored sender -/

section
variable {s : Registry} {answer : Option HeartbeatOutcome} {e : Endpoint}

theorem Reception.eq_refresh (hreceives : Reception r datagram now s answer)
    (habout : subject? datagram = some a) (hknown : r.endpoints.get? a = some e) :
    s = r.refresh a now ∧ answer = some .refreshed := by
  cases hreceives with
  | joined said unknown =>
    rw [said.get?_eq_some habout hknown] at unknown
    cases unknown
  | refreshed about known =>
    rw [habout] at about
    injection about with about
    rw [about]
    exact ⟨rfl, rfl⟩
  | ignored unsaid unknown =>
    rw [unknown a habout] at hknown
    cases hknown

theorem Reception.eq_of_subject?_eq_none (hreceives : Reception r datagram now s answer)
    (habout : subject? datagram = none) : s = r ∧ answer = none := by
  cases hreceives with
  | joined said unknown =>
    rw [subject?_of_announced (isHeartbeat_iff.1 said)] at habout
    cases habout
  | refreshed about known =>
    rw [habout] at about
    cases about
  | ignored unsaid unknown => exact ⟨rfl, rfl⟩

/-- A datagram of a stored sender with the command of a heartbeat renews the time of that sender and
changes nothing else, exactly if what stands behind the address is text; else it is dropped. -/
theorem known_sender_is_refreshed_iff (hsplit : Envelope.split datagram = some (data, name))
    (hcommand : GossipCommand.ofWire? name = some c) (hknown : r.endpoints.get? a = some e)
    (hne : a ≠ "") (hfirst : data.takeWhile (· != Envelope.separator) = Bytes.ofText a)
    (now : Moment) :
    let s := (receive r datagram now).1
    let answer := (receive r datagram now).2
    (answer = some .refreshed ↔ ∃ rest, data = Bytes.ofText a ++ Bytes.ofText rest) ∧
      (answer = some .refreshed → Renews a e now r s) ∧
      (answer ≠ some .refreshed → s = r ∧ answer = none) := by
  intro s answer
  have hreceives : Reception r datagram now s answer := receives r datagram now
  have hsubject := subject?_of_split hsplit hcommand
  by_cases htext : ∃ rest, data = Bytes.ofText a ++ Bytes.ofText rest
  · have habout := hsubject.trans (sender?_eq_some_iff.2 ⟨(exists_text_iff hfirst).2 htext, hne, hfirst⟩)
    obtain ⟨hs, hanswer⟩ := hreceives.eq_refresh habout hknown
    refine ⟨iff_of_true hanswer htext, fun _ => ?_, fun hnot => absurd hanswer hnot⟩
    rw [hs]
    exact renews_refresh hknown now
  · have hnobody : sender? data = none := by
      cases hsender : sender? data with
      | none => rfl
      | some b =>
        obtain ⟨hall, -⟩ := sender?_eq_some_iff.1 hsender
        exact absurd ((exists_text_iff hfirst).1 hall) htext
    obtain ⟨hs, hanswer⟩ := hreceives.eq_of_subject?_eq_none (hsubject.trans hnobody)
    have hnot : answer ≠ some .refreshed := by
      rw [hanswer]
      exact fun h => nomatch h
    exact ⟨iff_of_false hnot htext, fun h => absurd h hnot, fun _ => ⟨hs, hanswer⟩⟩

end

/-- One runtime, heard of at the time 5. -/
def oneRuntime : Registry :=
  (Registry.empty true).addEndpoint
    ⟨"tcp://10.0.0.7:4243", "node7", .containerRuntimeInternal, 1, ⟨5⟩, .peer⟩

/-- A datagram of that runtime with other bytes in place of its status. -/
def withStatus (status : Bytes) : Bytes :=
  Bytes.ofText "tcp://10.0.0.7:4243 node7 " ++ status ++
    Bytes.ofText " container_runtime_internal_heartbeat"

theorem wordy_status_is_refreshed :
    (receive oneRuntime (withStatus (Bytes.ofText "notanumber")) ⟨9⟩).2 = some .refreshed ∧
      Renews "tcp://10.0.0.7:4243"
        ⟨"tcp://10.0.0.7:4243", "node7", .containerRuntimeInternal, 1, ⟨5⟩, .peer⟩ ⟨9⟩ oneRuntime
        (receive oneRuntime (withStatus (Bytes.ofText "notanumber")) ⟨9⟩).1 := by
  have hsplit : Envelope.split (withStatus (Bytes.ofText "notanumber")) =
      some (Bytes.ofText "tcp://10.0.0.7:4243 node7 notanumber",
        Bytes.ofText "container_runtime_internal_heartbeat") := by
    decide +kernel
  have hrefreshed := known_sender_is_refreshed_iff (r := oneRuntime) (c := .containerRuntimeInternal)
    (a := "tcp://10.0.0.7:4243") hsplit (by decide +kernel) rfl (by decide) (by decide +kernel) ⟨9⟩
  have hanswer := hrefreshed.1.2 ⟨" node7 notanumber", by decide +kernel⟩
  exact ⟨hanswer, hrefreshed.2.1 hanswer⟩

/-- One byte that is no text keeps a stored sender from being refreshed. -/
theorem garbled_status_is_dropped :
    ¬∀ (r : Registry) (datagram data name : Bytes) (c : GossipCommand) (a : String) (e : Endpoint)
        (now : Moment),
      Envelope.split datagram = some (data, name) → GossipCommand.ofWire? name = some c →
      r.endpoints.get? a = some e → a ≠ "" →
      data.takeWhile (· != Envelope.separator) = Bytes.ofText a →
      (receive r datagram now).2 = some .refreshed ∧ Renews a e now r (receive r datagram now).1 := by
  intro hall
  have hsplit : Envelope.split (withStatus [0xFF]) =
      some (Bytes.ofText "tcp://10.0.0.7:4243 node7 " ++ [0xFF],
        Bytes.ofText "container_runtime_internal_heartbeat") := by
    decide +kernel
  have hdropped : (receive oneRuntime (withStatus [0xFF]) ⟨9⟩).2 = none := by decide +kernel
  have hrefreshed := hall oneRuntime _ _ _ .containerRuntimeInternal "tcp://10.0.0.7:4243" _ ⟨9⟩ hsplit
    (by decide +kernel) rfl (by decide) (by decide +kernel)
  cases hdropped.symm.trans hrefreshed.1

end HostFleet.Gossip
