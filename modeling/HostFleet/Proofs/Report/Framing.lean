import HostFleet.Report.Frame

/-! # The frames of a stream

* `read_eq_frame_iff`: a frame is read exactly where an encoded payload stands.
* `IsIncomplete`: no whole frame stands at the start of the bytes.
* `Framed`: a stream is cut into the frames of some payloads and a rest that holds no whole frame.
* `framed_readAll`, `Framed.unique`: every stream is cut so, and in one way only.
* `Framed.complete`: without its rest the stream is cut into the same payloads.
-/

set_option autoImplicit false

namespace HostFleet.Frame

variable {stream payload frame rest : Bytes} {payloads : List Bytes}

/-! ## One frame -/

theorem size_le_maxPayload (high low : UInt8) : size high low ≤ maxPayload := by
  have hhigh := high.toNat_lt
  have hlow := low.toNat_lt
  unfold size maxPayload
  omega

theorem size_of_le {n : Nat} (h : n ≤ maxPayload) :
    size (UInt8.ofNat (n / 256)) (UInt8.ofNat n) = n := by
  unfold maxPayload at h
  unfold size
  rw [UInt8.toNat_ofNat', UInt8.toNat_ofNat']
  omega

theorem ofNat_size (high low : UInt8) :
    UInt8.ofNat (size high low / 256) = high ∧ UInt8.ofNat (size high low) = low := by
  have hhigh := high.toNat_lt
  have hlow := low.toNat_lt
  refine ⟨?_, ?_⟩
  · refine UInt8.toNat_inj.1 ?_
    rw [UInt8.toNat_ofNat']
    unfold size
    omega
  · refine UInt8.toNat_inj.1 ?_
    rw [UInt8.toNat_ofNat']
    unfold size
    omega

theorem encode?_eq_ok_iff : encode? payload = .ok frame ↔ payload.length ≤ maxPayload ∧
    frame = UInt8.ofNat (payload.length / 256) :: UInt8.ofNat payload.length :: payload := by
  unfold encode?
  split
  · next h => simp [h, eq_comm]
  · next h => simp [h]

theorem read_encode (h : encode? payload = .ok frame) (rest : Bytes) :
    read (frame ++ rest) = .frame payload rest := by
  obtain ⟨hlength, rfl⟩ := encode?_eq_ok_iff.1 h
  rw [List.cons_append, List.cons_append, read, size_of_le hlength, List.length_append,
    if_neg (by omega), List.take_left, List.drop_left]

/-- A frame is read exactly where an encoded payload stands. -/
theorem read_eq_frame_iff : read stream = .frame payload rest ↔
    ∃ frame, encode? payload = .ok frame ∧ stream = frame ++ rest := by
  constructor
  · intro h
    unfold read at h
    split at h
    · next high low after =>
      split at h
      · cases h
      · next hlong =>
        injection h with hpayload hrest
        have hlength : payload.length = size high low := by
          rw [← hpayload, List.length_take]
          omega
        refine ⟨high :: low :: payload, encode?_eq_ok_iff.2 ⟨?_, ?_⟩, ?_⟩
        · rw [hlength]
          exact size_le_maxPayload high low
        · rw [hlength, (ofNat_size high low).1, (ofNat_size high low).2]
        · rw [List.cons_append, List.cons_append, ← hpayload, ← hrest, List.take_append_drop]
    · cases h
  · rintro ⟨frame, hencoded, rfl⟩
    exact read_encode hencoded rest

/-! ## All frames -/

/-- No frame is complete at the start of the bytes. -/
def IsIncomplete (rest : Bytes) : Prop :=
  ∀ payload frame tail, encode? payload = .ok frame → rest ≠ frame ++ tail

theorem isIncomplete_nil : IsIncomplete [] := by
  intro payload frame tail hencoded hempty
  rw [(encode?_eq_ok_iff.1 hencoded).2] at hempty
  cases hempty

/-- The stream consists of the frames of the payloads and a rest at whose start no frame is complete. -/
inductive Framed : Bytes → List Bytes → Bytes → Prop where
  | rest {rest : Bytes}
      (incomplete : ∀ payload frame tail, encode? payload = .ok frame → rest ≠ frame ++ tail) :
      Framed rest [] rest
  | frame {payload frame stream : Bytes} {payloads : List Bytes} {rest : Bytes}
      (encoded : encode? payload = .ok frame) (more : Framed stream payloads rest) :
      Framed (frame ++ stream) (payload :: payloads) rest

theorem Framed.nil : Framed [] [] [] := .rest isIncomplete_nil

theorem readAll_of_frame (h : read stream = .frame payload rest) :
    (readAll stream).1 = payload :: (readAll rest).1 := by
  rw [readAll]
  split
  · next h' => rw [h] at h'; cases h'
  · next h' => rw [h] at h'; cases h'
  · next h' =>
    rw [h] at h'
    injection h' with hpayload hrest
    rw [hpayload, hrest]

theorem readAll_of_no_frame (h : ∀ payload rest, read stream ≠ .frame payload rest) :
    (readAll stream).1 = [] := by
  rw [readAll]
  split
  · rfl
  · rfl
  · next h' => exact absurd h' (h _ _)

theorem framed_readAll (stream : Bytes) : ∃ rest, Framed stream (readAll stream).1 rest := by
  by_cases h : ∃ payload after, read stream = .frame payload after
  · obtain ⟨payload, after, hread⟩ := h
    have hshorter := length_rest_lt hread
    obtain ⟨rest, hframed⟩ := framed_readAll after
    obtain ⟨frame, hencoded, hstream⟩ := read_eq_frame_iff.1 hread
    rw [readAll_of_frame hread, hstream]
    exact ⟨rest, .frame hencoded hframed⟩
  · have hnone : ∀ payload after, read stream ≠ .frame payload after :=
      fun payload after hread => h ⟨payload, after, hread⟩
    rw [readAll_of_no_frame hnone]
    refine ⟨stream, .rest ?_⟩
    intro payload frame tail hencoded hstream
    exact hnone payload tail (read_eq_frame_iff.2 ⟨frame, hencoded, hstream⟩)
termination_by stream.length

theorem Framed.unique (h : Framed stream payloads rest) {payloads' : List Bytes} {rest' : Bytes}
    (h' : Framed stream payloads' rest') : payloads' = payloads ∧ rest' = rest := by
  induction h generalizing payloads' rest' with
  | rest incomplete =>
    cases h' with
    | rest _ => exact ⟨rfl, rfl⟩
    | frame encoded more => exact absurd rfl (incomplete _ _ _ encoded)
  | @frame payload frame stream payloads rest encoded more ih =>
    generalize hstream : frame ++ stream = whole at h'
    cases h' with
    | rest incomplete => exact absurd hstream.symm (incomplete payload frame stream encoded)
    | @frame payload' frame' stream' payloads' rest' encoded' more' =>
      -- both first frames are what is read at the start
      have hread := read_encode encoded stream
      rw [hstream, read_encode encoded' stream'] at hread
      injection hread with hpayload hsame
      subst hpayload hsame
      obtain ⟨hpayloads, hrest⟩ := ih more'
      exact ⟨by rw [hpayloads], hrest⟩

theorem Framed.readAll_eq (h : Framed stream payloads rest) : (readAll stream).1 = payloads := by
  obtain ⟨rest', h'⟩ := framed_readAll stream
  exact (h.unique h').1

/-- Without its rest a stream is cut into the same payloads. -/
theorem Framed.complete (h : Framed stream payloads rest) :
    ∃ whole, stream = whole ++ rest ∧ Framed whole payloads [] := by
  induction h with
  | rest _ => exact ⟨[], rfl, .nil⟩
  | @frame payload frame stream payloads rest encoded more ih =>
    obtain ⟨whole, hstream, hframed⟩ := ih
    refine ⟨frame ++ whole, ?_, .frame encoded hframed⟩
    rw [hstream, List.append_assoc]

end HostFleet.Frame
