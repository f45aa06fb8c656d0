import HostFleet.Proofs.Report.Stream

/-! # Where a stream may end

A stream is cut between two frames, after the first byte of a length, or inside a payload; here these
places are told apart by how reading it ends.

* `Leaves`: complete frames stand before the rest of a stream.
* `IsWhole`, `StopsInLength`, `StopsInPayload`: the three places.
* `isIncomplete_iff`: the rests that hold no whole frame.
* `readAll_take`: a frame cut at any of its bytes.
* `streams_close_short_of_a_length`: a stream closes unless it stops in a payload, so one that stops in a
  length is taken for a whole one.
-/

set_option autoImplicit false

namespace HostFleet.Frame

variable {stream payload frame rest rest' : Bytes} {payloads frames : List Bytes}

/-! ## What is left behind the frames -/

/-- Complete frames stand before the rest. -/
def Leaves (stream rest : Bytes) : Prop :=
  ∃ (payloads frames : List Bytes),
    payloads.mapM encode? = .ok frames ∧ stream = frames.flatten ++ rest

/-- The stream consists of complete frames. -/
def IsWhole (stream : Bytes) : Prop := Leaves stream []

/-- The stream ends between the two bytes of a length. -/
def StopsInLength (stream : Bytes) : Prop := ∃ high, Leaves stream [high]

/-- The stream ends behind a length and before the end of its payload. -/
def StopsInPayload (stream : Bytes) : Prop :=
  ∃ high low part, part.length < size high low ∧ Leaves stream (high :: low :: part)

theorem isIncomplete_of_length_lt (h : rest.length < 2) : IsIncomplete rest := by
  intro payload frame tail hencoded hrest
  rw [hrest, (encode?_eq_ok_iff.1 hencoded).2] at h
  simp only [List.cons_append, List.length_cons] at h
  omega

theorem isIncomplete_iff_read : IsIncomplete rest ↔ ∀ payload tail, read rest ≠ .frame payload tail := by
  constructor
  · intro h payload tail hread
    obtain ⟨frame, hencoded, hrest⟩ := read_eq_frame_iff.1 hread
    exact h payload frame tail hencoded hrest
  · intro h payload frame tail hencoded hrest
    exact h payload tail (read_eq_frame_iff.2 ⟨frame, hencoded, hrest⟩)

theorem isIncomplete_cons_cons_iff {high low : UInt8} {part : Bytes} :
    IsIncomplete (high :: low :: part) ↔ part.length < size high low := by
  rw [isIncomplete_iff_read, read]
  split
  · next hshort => simp [hshort]
  · next hlong => simp [hlong]

/-- A rest without a whole frame is empty, half a length, or a length with too little behind it. -/
theorem isIncomplete_iff : IsIncomplete rest ↔ rest = [] ∨ (∃ high, rest = [high]) ∨
    ∃ high low part, part.length < size high low ∧ rest = high :: low :: part := by
  constructor
  · intro h
    match rest with
    | [] => exact .inl rfl
    | [high] => exact .inr (.inl ⟨high, rfl⟩)
    | high :: low :: part =>
      exact .inr (.inr ⟨high, low, part, isIncomplete_cons_cons_iff.1 h, rfl⟩)
  · rintro (rfl | ⟨high, rfl⟩ | ⟨high, low, part, hshort, rfl⟩)
    · exact isIncomplete_nil
    · exact isIncomplete_of_length_lt Nat.one_lt_two
    · exact isIncomplete_cons_cons_iff.2 hshort

theorem leaves_iff (h : IsIncomplete rest) :
    Leaves stream rest ↔ ∃ payloads, Framed stream payloads rest := by
  unfold Leaves
  simp only [framed_iff, h, and_true]

theorem exists_leaves (stream : Bytes) : ∃ rest, IsIncomplete rest ∧ Leaves stream rest := by
  obtain ⟨rest, hframed⟩ := framed_readAll stream
  obtain ⟨frames, hframes, hstream, hrest⟩ := framed_iff.1 hframed
  exact ⟨rest, hrest, _, frames, hframes, hstream⟩

theorem Leaves.unique (h : Leaves stream rest) (hrest : IsIncomplete rest)
    (h' : Leaves stream rest') (hrest' : IsIncomplete rest') : rest' = rest := by
  obtain ⟨payloads, hframed⟩ := (leaves_iff hrest).1 h
  obtain ⟨payloads', hframed'⟩ := (leaves_iff hrest').1 h'
  exact (hframed.unique hframed').2

/-! ## The three places -/

theorem whole_or_stops (stream : Bytes) :
    IsWhole stream ∨ StopsInLength stream ∨ StopsInPayload stream := by
  obtain ⟨rest, hrest, hleaves⟩ := exists_leaves stream
  rcases isIncomplete_iff.1 hrest with rfl | ⟨high, rfl⟩ | ⟨high, low, part, hshort, rfl⟩
  · exact .inl hleaves
  · exact .inr (.inl ⟨high, hleaves⟩)
  · exact .inr (.inr ⟨high, low, part, hshort, hleaves⟩)

theorem StopsInLength.not_isWhole (h : StopsInLength stream) : ¬IsWhole stream := by
  obtain ⟨high, hleaves⟩ := h
  intro hwhole
  have hsame := hwhole.unique isIncomplete_nil hleaves (isIncomplete_of_length_lt Nat.one_lt_two)
  cases hsame

/-! ## How reading ends -/

theorem Leaves.closed_iff (h : Leaves stream rest) (hrest : IsIncomplete rest) :
    (readAll stream).2 = .closed ↔ rest.length < 2 := by
  obtain ⟨payloads, hframed⟩ := (leaves_iff hrest).1 h
  exact readAll_snd_eq_closed_iff hframed

theorem closed_of_isWhole (h : IsWhole stream) : (readAll stream).2 = .closed :=
  (Leaves.closed_iff h isIncomplete_nil).2 Nat.zero_lt_two

theorem closed_of_stopsInLength (h : StopsInLength stream) : (readAll stream).2 = .closed := by
  obtain ⟨high, hleaves⟩ := h
  exact (hleaves.closed_iff (isIncomplete_of_length_lt Nat.one_lt_two)).2 Nat.one_lt_two

theorem cut_of_stopsInPayload (h : StopsInPayload stream) : (readAll stream).2 = .cut := by
  obtain ⟨high, low, part, hshort, hleaves⟩ := h
  have hopen : ¬(readAll stream).2 = .closed := by
    rw [hleaves.closed_iff (isIncomplete_cons_cons_iff.2 hshort), List.length_cons, List.length_cons]
    omega
  cases hend : (readAll stream).2 with
  | closed => exact absurd hend hopen
  | cut => rfl

theorem closed_iff : (readAll stream).2 = .closed ↔ IsWhole stream ∨ StopsInLength stream := by
  constructor
  · intro hclosed
    rcases whole_or_stops stream with hwhole | hlength | hpayload
    · exact .inl hwhole
    · exact .inr hlength
    · rw [cut_of_stopsInPayload hpayload] at hclosed
      cases hclosed
  · rintro (hwhole | hlength)
    · exact closed_of_isWhole hwhole
    · exact closed_of_stopsInLength hlength

theorem cut_iff : (readAll stream).2 = .cut ↔ StopsInPayload stream := by
  refine ⟨fun hcut => ?_, cut_of_stopsInPayload⟩
  rcases whole_or_stops stream with hwhole | hlength | hpayload
  · rw [closed_of_isWhole hwhole] at hcut
    cases hcut
  · rw [closed_of_stopsInLength hlength] at hcut
    cases hcut
  · exact hpayload

theorem fault?_eq_none_iff {ending : End} : ending.fault? = none ↔ ending = .closed := by
  cases ending <;> simp [End.fault?]

theorem fault?_eq_some_iff {ending : End} {fault : Fault} :
    ending.fault? = some fault ↔ ending = .cut ∧ fault = .io "early eof" := by
  cases ending <;> simp [End.fault?, eq_comm]

/-! ## Cut frames -/

theorem isIncomplete_take (h : encode? payload = .ok frame) {n : Nat} (hn : n < frame.length) :
    IsIncomplete (frame.take n) := by
  intro payload' frame' tail hencoded htake
  -- the payload in what is left would be the one of the whole frame
  have hwhole : frame = frame' ++ (tail ++ frame.drop n) := by
    rw [← List.append_assoc, ← htake, List.take_append_drop]
  have hread := read_encode hencoded (tail ++ frame.drop n)
  have hread' := read_encode h []
  rw [List.append_nil, hwhole, hread] at hread'
  injection hread' with _ hnil
  have hdrop : frame.drop n = [] := (List.append_eq_nil_iff.1 hnil).2
  rw [List.drop_eq_nil_iff] at hdrop
  omega

/-- A frame cut at any of its bytes ends a stream cleanly only if at most one byte of it is there. -/
theorem readAll_take (hframes : payloads.mapM encode? = .ok frames) (h : encode? payload = .ok frame)
    {n : Nat} (hn : n < frame.length) :
    readAll (frames.flatten ++ frame.take n) = (payloads, if n < 2 then .closed else .cut) := by
  have hframed := framed_append hframes (isIncomplete_take h hn)
  have hclosed := readAll_snd_eq_closed_iff hframed
  rw [List.length_take_of_le (Nat.le_of_lt hn)] at hclosed
  refine Prod.ext hframed.readAll_eq ?_
  cases hend : (readAll (frames.flatten ++ frame.take n)).2 with
  | closed => rw [if_pos (hclosed.1 hend)]
  | cut =>
    have hlong : ¬n < 2 := fun hshort => by rw [hclosed.2 hshort] at hend; cases hend
    rw [if_neg hlong]

/-- Reading a stream ends without a fault if it consists of complete frames, and also if one byte of a
length is left behind them; in a payload it ends with a fault, and nowhere else. So that a clean end means
complete frames is right for every stream but those with one byte left over. The same for a stream that is
cut at any byte of its last frame: what stands before that frame is read, and from its third byte on the
cut is a fault. -/
theorem streams_close_short_of_a_length (stream : Bytes) :
    ((readAll stream).2.fault? = none ↔ IsWhole stream ∨ StopsInLength stream) ∧
    (∀ fault, (readAll stream).2.fault? = some fault ↔
      StopsInPayload stream ∧ fault = .io "early eof") ∧
    (((readAll stream).2.fault? = none ↔ IsWhole stream) ↔ ¬StopsInLength stream) ∧
    ∀ payloads frames payload frame, payloads.mapM encode? = .ok frames →
      encode? payload = .ok frame → ∀ n < frame.length, stream = frames.flatten ++ frame.take n →
        readAll stream = (payloads, if n < 2 then .closed else .cut) := by
  have hnone : (readAll stream).2.fault? = none ↔ IsWhole stream ∨ StopsInLength stream :=
    fault?_eq_none_iff.trans closed_iff
  refine ⟨hnone, fun fault => ?_, ?_, ?_⟩
  · rw [fault?_eq_some_iff, cut_iff]
  · rw [hnone]
    constructor
    · intro hright hlength
      exact hlength.not_isWhole (hright.1 (.inr hlength))
    · intro hlength
      rw [or_iff_left hlength]
  · rintro payloads frames payload frame hframes h n hn rfl
    exact readAll_take hframes h hn

/-- The second of two frames is cut after the first byte of its payload. -/
theorem cut_behind_a_frame_is_a_fault :
    [[0x61]].mapM encode? = .ok [[0x00, 0x01, 0x61]] ∧
      encode? [0x62, 0x63] = .ok [0x00, 0x02, 0x62, 0x63] ∧
      readAll [0x00, 0x01, 0x61, 0x00, 0x02, 0x62] = ([[0x61]], .cut) :=
  ⟨rfl, rfl, (streams_close_short_of_a_length [0x00, 0x01, 0x61, 0x00, 0x02, 0x62]).2.2.2 [[0x61]]
    [[0x00, 0x01, 0x61]] [0x62, 0x63] [0x00, 0x02, 0x62, 0x63] rfl rfl 3 (by decide) rfl⟩

/-- Half of a length is no frame, and reading it ends without a fault. -/
theorem half_a_length_closes_cleanly :
    (readAll [0x00]).2.fault? = none ∧ StopsInLength [0x00] ∧ ¬IsWhole [0x00] := by
  have hlength : StopsInLength [0x00] := ⟨0x00, [], [], rfl, rfl⟩
  exact ⟨fault?_eq_none_iff.2 (closed_of_stopsInLength hlength), hlength, hlength.not_isWhole⟩

end HostFleet.Frame
