import HostFleet.Proofs.Report.Framing

/-! # Frames one behind the other

What is written frame by frame is read frame by frame, and what is read was written so.

* `framed_iff`: to cut a stream into frames and a rest is to write it as encoded payloads and a rest.
* `readAll_snd_eq_closed_iff`: a stream closes where its rest is too short for a length.
* `frames_survive_the_stream`: writing then reading, reading then writing, and which payloads can be written.
-/

set_option autoImplicit false

namespace HostFleet.Frame

variable {stream payload frame rest : Bytes} {payloads frames : List Bytes}

/-! ## Writing -/

theorem encode?_eq_error_iff {fault : Fault} :
    encode? payload = .error fault ↔
      maxPayload < payload.length ∧ fault = .frameTooLarge payload.length := by
  unfold encode?
  split
  · next hfits =>
    have hnot : ¬maxPayload < payload.length := by omega
    simp [hnot]
  · next hlong =>
    have hlt : maxPayload < payload.length := by omega
    simp [hlt, eq_comm]

theorem mapM_encode_cons (h : encode? payload = .ok frame)
    (hmore : payloads.mapM encode? = .ok frames) :
    (payload :: payloads).mapM encode? = .ok (frame :: frames) := by
  rw [List.mapM_cons, h, hmore]
  rfl

theorem of_mapM_encode_cons {all : List Bytes}
    (h : (payload :: payloads).mapM encode? = .ok all) :
    ∃ frame frames, encode? payload = .ok frame ∧ payloads.mapM encode? = .ok frames ∧
      all = frame :: frames := by
  rw [List.mapM_cons] at h
  cases hfirst : encode? payload with
  | error fault =>
    rw [hfirst] at h
    cases h
  | ok frame =>
    cases hmore : payloads.mapM encode? with
    | error fault =>
      rw [hfirst, hmore] at h
      cases h
    | ok frames =>
      rw [hfirst, hmore] at h
      injection h with h
      exact ⟨frame, frames, rfl, rfl, h.symm⟩

theorem exists_mapM_encode (h : ∀ p ∈ payloads, p.length ≤ maxPayload) :
    ∃ frames, payloads.mapM encode? = .ok frames := by
  induction payloads with
  | nil => exact ⟨[], rfl⟩
  | cons payload payloads ih =>
    obtain ⟨frames, hframes⟩ := ih fun p hp => h p (List.mem_cons_of_mem payload hp)
    have hfits := h payload List.mem_cons_self
    exact ⟨_, mapM_encode_cons (encode?_eq_ok_iff.2 ⟨hfits, rfl⟩) hframes⟩

/-! ## Cutting -/

theorem framed_append (hframes : payloads.mapM encode? = .ok frames) (h : IsIncomplete rest) :
    Framed (frames.flatten ++ rest) payloads rest := by
  induction payloads generalizing frames with
  | nil =>
    injection hframes with hframes
    subst hframes
    exact .rest h
  | cons payload payloads ih =>
    obtain ⟨frame, more, hframe, hmore, rfl⟩ := of_mapM_encode_cons hframes
    rw [List.flatten_cons, List.append_assoc]
    exact .frame hframe (ih hmore)

/-- A stream is cut into frames and a rest where encoded payloads stand before the rest. -/
theorem framed_iff : Framed stream payloads rest ↔
    ∃ frames, payloads.mapM encode? = .ok frames ∧ stream = frames.flatten ++ rest ∧
      IsIncomplete rest := by
  constructor
  · intro h
    induction h with
    | rest incomplete => exact ⟨[], rfl, rfl, incomplete⟩
    | @frame payload frame stream payloads rest encoded more ih =>
      obtain ⟨frames, hframes, hstream, hrest⟩ := ih
      refine ⟨frame :: frames, mapM_encode_cons encoded hframes, ?_, hrest⟩
      rw [hstream, List.flatten_cons, List.append_assoc]
  · rintro ⟨frames, hframes, rfl, hrest⟩
    exact framed_append hframes hrest

/-! ## How a stream ends -/

theorem readAll_snd_of_frame (h : read stream = .frame payload rest) :
    (readAll stream).2 = (readAll rest).2 := by
  rw [readAll]
  split
  · next h' => rw [h] at h'; cases h'
  · next h' => rw [h] at h'; cases h'
  · next h' =>
    rw [h] at h'
    injection h' with hpayload hrest
    rw [hrest]

theorem readAll_snd_of_isIncomplete (h : IsIncomplete rest) :
    (readAll rest).2 = .closed ↔ rest.length < 2 := by
  have hread : read rest = .closed ↔ rest.length < 2 := by
    unfold read
    split
    · split <;> simp
    · next hshort =>
      match rest, hshort with
      | [], _ => simp
      | [_], _ => simp
      | high :: low :: more, hshort => exact absurd rfl (hshort high low more)
  rw [readAll, ← hread]
  split
  · next h' => simp [h']
  · next h' => simp [h']
  · next payload more h' =>
    obtain ⟨frame, hencoded, hrest⟩ := read_eq_frame_iff.1 h'
    exact absurd hrest (h payload frame more hencoded)

/-- A stream closes between frames unless its rest holds a length. -/
theorem readAll_snd_eq_closed_iff (h : Framed stream payloads rest) :
    (readAll stream).2 = .closed ↔ rest.length < 2 := by
  induction h with
  | rest incomplete => exact readAll_snd_of_isIncomplete incomplete
  | @frame payload frame stream payloads rest encoded more ih =>
    rw [readAll_snd_of_frame (read_encode encoded stream), ih]

/-- Payloads that fit are read off their frames as they were, and then the stream closes. Of any stream
the payloads that are read, written again, are its beginning, and no whole frame stands behind them; no
other payloads can be had so. A payload is refused exactly if it is longer than 65535 bytes. -/
theorem frames_survive_the_stream :
    (∀ payloads : List Bytes, (∀ p ∈ payloads, p.length ≤ 65535) →
      ∃ frames, payloads.mapM encode? = .ok frames ∧
        readAll frames.flatten = (payloads, .closed)) ∧
    (∀ stream, ∃ frames rest, (readAll stream).1.mapM encode? = .ok frames ∧
      stream = frames.flatten ++ rest ∧ IsIncomplete rest ∧
      ((readAll stream).2 = .closed ↔ rest.length < 2)) ∧
    (∀ payloads frames rest, payloads.mapM encode? = .ok frames → IsIncomplete rest →
      (readAll (frames.flatten ++ rest)).1 = payloads) ∧
    ∀ payload fault, encode? payload = .error fault ↔
      65535 < payload.length ∧ fault = .frameTooLarge payload.length := by
  refine ⟨?_, ?_, ?_, ?_⟩
  · intro payloads hfit
    obtain ⟨frames, hframes⟩ := exists_mapM_encode hfit
    have hframed := framed_append hframes isIncomplete_nil
    rw [List.append_nil] at hframed
    refine ⟨frames, hframes, Prod.ext hframed.readAll_eq ?_⟩
    exact (readAll_snd_eq_closed_iff hframed).2 Nat.zero_lt_two
  · intro stream
    obtain ⟨rest, hframed⟩ := framed_readAll stream
    obtain ⟨frames, hframes, hstream, hrest⟩ := framed_iff.1 hframed
    exact ⟨frames, rest, hframes, hstream, hrest, readAll_snd_eq_closed_iff hframed⟩
  · intro payloads frames rest hframes hrest
    exact (framed_append hframes hrest).readAll_eq
  · intro payload fault
    exact encode?_eq_error_iff

end HostFleet.Frame
