import HostFleet.Proofs.Report.Acceptable
import HostFleet.Proofs.Report.Framing
import HostFleet.Report.Connection

/-! # Conversations

A client reports over a connection, call after call, and each call comes to what the handler makes of it.

* `Call`: a command with its data; `Call.answer` is what the client should be told about it.
* `converse_of_ok`, `converse_of_error`: a conversation goes call by call.
* `handledAll`: the registry after the calls that reach the handler.
* `Link`: a connection on which each call waits for its acknowledgement before the next is made;
  `sendAll_opened`: it comes to the same.
* `calls_reach_the_handler`: what becomes of every call of a conversation.
-/

set_option autoImplicit false

namespace HostFleet.Report

/-! ## Calls -/

structure Call where
  command : ReportCommand
  data : Bytes
  deriving DecidableEq, Repr

namespace Call

def payload (c : Call) : Bytes := Client.payload c.command c.data

/-- The length of the data, a space, and the command. -/
def size (c : Call) : Nat := c.data.length + 1 + (Bytes.ofText c.command.wireName).length

def isWritten (c : Call) : Bool := c.size ≤ Frame.maxPayload

/-- What the client is told of a call that meets this registry. -/
def answer (c : Call) (r : Registry) (peer : Option Ip) : Except Fault Bool :=
  if Frame.maxPayload < c.size then .error (.frameTooLarge c.size)
  else if c.data = [] then .ok false
  else .ok (handle r peer c.command c.data).2.isOk

theorem length_payload (c : Call) : c.payload.length = c.size := by
  unfold payload Client.payload Envelope.join size
  rw [List.length_append, List.length_cons]
  omega

theorem encode_of_isWritten {c : Call} (h : c.isWritten = true) :
    ∃ frame, Frame.encode? c.payload = .ok frame := by
  refine ⟨_, Frame.encode?_eq_ok_iff.2 ⟨?_, rfl⟩⟩
  rw [c.length_payload]
  exact of_decide_eq_true h

theorem encode_of_not_isWritten {c : Call} (h : c.isWritten = false) :
    Frame.encode? c.payload = .error (.frameTooLarge c.size) := by
  unfold Frame.encode?
  rw [c.length_payload, if_neg (of_decide_eq_false h)]

end Call

variable {payload frame : Bytes}

/-! ## What the handler gets -/

theorem handlePayload_of_opened {command : ReportCommand} {data : Bytes}
    (h : opened? payload = .ok (command, data)) (r : Registry) (peer : Option Ip) :
    handlePayload r peer payload =
      ((handle r peer command data).1, (handle r peer command data).2.map fun _ => command) := by
  unfold handlePayload
  rw [h]

/-- A space in the first place separates nothing, and no command holds another one. -/
theorem opened?_of_no_data (command : ReportCommand) :
    opened? (Client.payload command []) = .error .malformedEnvelope := by
  have hsplit : Envelope.split (Client.payload command []) = none := by
    refine Option.eq_none_iff_forall_ne_some.2 ?_
    rintro ⟨data, name⟩ hsome
    obtain ⟨hdata, hpayload, -⟩ := Envelope.split_eq_some_iff.1 hsome
    cases data with
    | nil => exact hdata rfl
    | cons first data =>
      have hname : Bytes.ofText command.wireName = data ++ Envelope.separator :: name :=
        (List.cons.inj hpayload).2
      refine command.space_not_mem_wireName ?_
      rw [hname]
      exact List.mem_append_right data List.mem_cons_self
  unfold opened?
  rw [hsplit]

theorem handlePayload_of_no_data (command : ReportCommand) (r : Registry) (peer : Option Ip) :
    handlePayload r peer (Client.payload command []) = (r, .error .malformedEnvelope) := by
  unfold handlePayload
  rw [opened?_of_no_data]

theorem handlePayload_of_data {data : Bytes} (h : data ≠ []) (command : ReportCommand)
    (r : Registry) (peer : Option Ip) :
    handlePayload r peer (Client.payload command data) =
      ((handle r peer command data).1, (handle r peer command data).2.map fun _ => command) :=
  handlePayload_of_opened (opened?_eq_ok_iff.2 ⟨h, rfl⟩) r peer

theorem isOk_map {ε α β : Type} (f : α → β) (x : Except ε α) : (x.map f).isOk = x.isOk := by
  cases x <;> rfl

/-- The registry after a call, if it reaches the handler. -/
def handled (peer : Option Ip) (r : Registry) (c : Call) : Registry :=
  if c.isWritten ∧ c.data ≠ [] then (handle r peer c.command c.data).1 else r

/-- The registry after the calls that reach the handler, one after another. -/
def handledAll (peer : Option Ip) (r : Registry) (calls : List Call) : Registry :=
  (calls.filter fun c => c.isWritten ∧ c.data ≠ []).foldl
    (fun r c => (handle r peer c.command c.data).1) r

theorem handledAll_cons (peer : Option Ip) (r : Registry) (c : Call) (calls : List Call) :
    handledAll peer r (c :: calls) = handledAll peer (handled peer r c) calls := by
  unfold handledAll handled
  rw [List.filter_cons]
  by_cases h : c.isWritten ∧ c.data ≠ []
  · rw [if_pos (decide_eq_true h), if_pos h]
    rfl
  · rw [if_neg (by simpa using h), if_neg h]

/-- A written call is acknowledged as it is answered, and reaches the handler if it has data. -/
theorem acknowledge_payload {c : Call} (h : c.isWritten = true) (r : Registry)
    (peer : Option Ip) :
    (acknowledge peer r c.payload).1 = handled peer r c ∧
      c.answer r peer = .ok (acknowledge peer r c.payload).2 := by
  have hfits : ¬Frame.maxPayload < c.size := Nat.not_lt.2 (of_decide_eq_true h)
  unfold acknowledge Call.answer handled Call.payload
  rw [if_neg hfits]
  by_cases hdata : c.data = []
  · rw [hdata, handlePayload_of_no_data, if_pos rfl, if_neg fun hboth => hboth.2 rfl]
    exact ⟨rfl, rfl⟩
  · rw [handlePayload_of_data hdata, if_neg hdata, if_pos ⟨h, hdata⟩]
    exact ⟨rfl, congrArg _ (isOk_map _ _).symm⟩

/-! ## Call by call -/

theorem written_of_ok (h : Frame.encode? payload = .ok frame) (payloads : List Bytes) :
    Client.written (payload :: payloads) = frame ++ Client.written payloads := by
  unfold Client.written
  rw [List.flatMap_cons, h]

theorem written_of_error {fault : Fault} (h : Frame.encode? payload = .error fault)
    (payloads : List Bytes) :
    Client.written (payload :: payloads) = Client.written payloads := by
  unfold Client.written
  rw [List.flatMap_cons, h]
  rfl

theorem serve_append (h : Frame.encode? payload = .ok frame) (r : Registry) (peer : Option Ip)
    (stream : Bytes) :
    serve r peer (frame ++ stream) =
      ((serve (acknowledge peer r payload).1 peer stream).1,
        (acknowledge peer r payload).2 :: (serve (acknowledge peer r payload).1 peer stream).2) := by
  unfold serve
  rw [Frame.readAll_of_frame (Frame.read_encode h stream)]
  rfl

theorem serve_nil (r : Registry) (peer : Option Ip) : serve r peer [] = (r, []) := by
  unfold serve
  rw [Frame.Framed.nil.readAll_eq]
  rfl

theorem converse_nil (r : Registry) (peer : Option Ip) : Client.converse r peer [] = (r, []) := by
  have hwritten : Client.written [] = [] := rfl
  unfold Client.converse
  rw [hwritten, serve_nil]
  rfl

/-- A payload that fits a frame gets the first acknowledgement, and the next ones get the others. -/
theorem converse_of_ok (h : Frame.encode? payload = .ok frame) (r : Registry)
    (peer : Option Ip) (payloads : List Bytes) :
    Client.converse r peer (payload :: payloads) =
      ((Client.converse (acknowledge peer r payload).1 peer payloads).1,
        .ok (acknowledge peer r payload).2 ::
          (Client.converse (acknowledge peer r payload).1 peer payloads).2) := by
  unfold Client.converse
  rw [written_of_ok h, serve_append h]
  simp only [Client.results, h]

/-- A payload that does not fit fails by itself: the conversation is the one without it. -/
theorem converse_of_error {fault : Fault} (h : Frame.encode? payload = .error fault)
    (r : Registry) (peer : Option Ip) (payloads : List Bytes) :
    Client.converse r peer (payload :: payloads) =
      ((Client.converse r peer payloads).1,
        .error fault :: (Client.converse r peer payloads).2) := by
  unfold Client.converse
  rw [written_of_error h]
  simp only [Client.results, h]

/-- The first call of a conversation is answered by the registry that it meets. -/
theorem converse_cons (r : Registry) (peer : Option Ip) (c : Call) (payloads : List Bytes) :
    Client.converse r peer (c.payload :: payloads) =
      ((Client.converse (handled peer r c) peer payloads).1,
        c.answer r peer :: (Client.converse (handled peer r c) peer payloads).2) := by
  cases hwritten : c.isWritten with
  | true =>
    obtain ⟨frame, hframe⟩ := c.encode_of_isWritten hwritten
    obtain ⟨hregistry, hanswer⟩ := acknowledge_payload hwritten r peer
    rw [converse_of_ok hframe, hregistry, hanswer]
  | false =>
    have hregistry : handled peer r c = r := if_neg fun hboth => by simp [hwritten] at hboth
    have hanswer : c.answer r peer = .error (.frameTooLarge c.size) :=
      if_pos (Nat.not_le.1 (of_decide_eq_false hwritten))
    rw [converse_of_error (c.encode_of_not_isWritten hwritten), hregistry, hanswer]

theorem converse_fst (r : Registry) (peer : Option Ip) (calls : List Call) :
    (Client.converse r peer (calls.map Call.payload)).1 = handledAll peer r calls := by
  induction calls generalizing r with
  | nil => exact congrArg Prod.fst (converse_nil r peer)
  | cons c calls ih => rw [List.map_cons, converse_cons, ih, handledAll_cons]

theorem getElem?_converse (r : Registry) (peer : Option Ip) (calls : List Call) (i : Nat) :
    (Client.converse r peer (calls.map Call.payload)).2[i]? =
      calls[i]?.map fun c => c.answer (handledAll peer r (calls.take i)) peer := by
  induction calls generalizing r i with
  | nil =>
    rw [List.map_nil, converse_nil]
    rfl
  | cons c calls ih =>
    rw [List.map_cons, converse_cons]
    cases i with
    | zero => rfl
    | succ i =>
      rw [List.getElem?_cons_succ, ih, List.getElem?_cons_succ, List.take_succ_cons,
        handledAll_cons]

/-! ## What is on the wire -/

theorem framed_written (calls : List Call) :
    Frame.Framed (Client.written (calls.map Call.payload))
      ((calls.filter Call.isWritten).map Call.payload) [] := by
  induction calls with
  | nil => exact .nil
  | cons c calls ih =>
    rw [List.map_cons, List.filter_cons]
    cases hwritten : c.isWritten with
    | true =>
      obtain ⟨frame, hframe⟩ := c.encode_of_isWritten hwritten
      rw [written_of_ok hframe]
      exact .frame hframe ih
    | false =>
      rw [written_of_error (c.encode_of_not_isWritten hwritten)]
      exact ih

/-- The answers to the written calls are the acknowledgements, in order. -/
theorem acks_eq_answers (r : Registry) (peer : Option Ip) (calls : List Call) :
    (serve r peer (Client.written (calls.map Call.payload))).2 =
      (Client.converse r peer (calls.map Call.payload)).2.filterMap Except.toOption := by
  induction calls generalizing r with
  | nil =>
    have hwritten : Client.written [] = [] := rfl
    rw [List.map_nil, converse_nil, hwritten, serve_nil]
    rfl
  | cons c calls ih =>
    rw [List.map_cons]
    cases hwritten : c.isWritten with
    | true =>
      obtain ⟨frame, hframe⟩ := c.encode_of_isWritten hwritten
      obtain ⟨hregistry, -⟩ := acknowledge_payload hwritten r peer
      rw [written_of_ok hframe, serve_append hframe, converse_of_ok hframe, hregistry, ih]
      rfl
    | false =>
      have herror := c.encode_of_not_isWritten hwritten
      rw [written_of_error herror, converse_of_error herror, ih]
      rfl

/-! ## Waiting for each acknowledgement -/

/-- A connection as it stands between two calls. -/
structure Link where
  registry : Registry
  /-- What the client has written and the server has not taken. -/
  unread : Bytes
  /-- What the server has written and the client has not taken. -/
  acks : List UInt8

namespace Link

def opened (r : Registry) : Link := ⟨r, [], []⟩

/-- The server takes frame by frame while a whole one is there. -/
def serve (peer : Option Ip) (l : Link) : Link :=
  match h : Frame.read l.unread with
  | .closed | .cut => l
  | .frame payload rest =>
    have := Frame.length_rest_lt h
    let (r, ack) := acknowledge peer l.registry payload
    serve peer ⟨r, rest, l.acks ++ [ackByte ack]⟩
termination_by l.unread.length

/-- The client writes one frame and takes the next byte that comes back. -/
def send (peer : Option Ip) (l : Link) (payload : Bytes) : Link × Except Fault Bool :=
  match Frame.encode? payload with
  | .error fault => (l, .error fault)
  | .ok frame =>
    let l := serve peer { l with unread := l.unread ++ frame }
    match l.acks with
    | ack :: acks => ({ l with acks }, .ok (ack == 1))
    | [] => (l, .error (.io "early eof"))

def sendAll (peer : Option Ip) (l : Link) : List Bytes → Link × List (Except Fault Bool)
  | [] => (l, [])
  | payload :: payloads =>
    let (l, result) := l.send peer payload
    let (l, results) := sendAll peer l payloads
    (l, result :: results)

theorem serve_of_unread_nil (peer : Option Ip) (r : Registry) (acks : List UInt8) :
    serve peer ⟨r, [], acks⟩ = ⟨r, [], acks⟩ := by
  rw [serve]
  rfl

theorem serve_frame (h : Frame.encode? payload = .ok frame) (peer : Option Ip) (r : Registry) :
    serve peer ⟨r, frame, []⟩ =
      ⟨(acknowledge peer r payload).1, [], [ackByte (acknowledge peer r payload).2]⟩ := by
  have hread : Frame.read frame = .frame payload [] := by
    rw [← List.append_nil frame]
    exact Frame.read_encode h []
  rw [serve]
  split
  · next h' => rw [hread] at h'; cases h'
  · next h' => rw [hread] at h'; cases h'
  · next h' =>
    rw [hread] at h'
    injection h' with hpayload hrest
    subst hpayload hrest
    exact serve_of_unread_nil peer _ _

theorem ackByte_beq (ack : Bool) : (ackByte ack == 1) = ack := by cases ack <;> rfl

/-- A call on a connection that is at rest leaves it at rest. -/
theorem send_opened_of_ok (h : Frame.encode? payload = .ok frame) (peer : Option Ip)
    (r : Registry) :
    (opened r).send peer payload =
      (opened (acknowledge peer r payload).1, .ok (acknowledge peer r payload).2) := by
  have hserved : serve peer { opened r with unread := (opened r).unread ++ frame } =
      ⟨(acknowledge peer r payload).1, [], [ackByte (acknowledge peer r payload).2]⟩ :=
    serve_frame h peer r
  unfold send
  simp only [h, hserved, ackByte_beq]
  rfl

theorem send_of_error {fault : Fault} (h : Frame.encode? payload = .error fault)
    (peer : Option Ip) (l : Link) : l.send peer payload = (l, .error fault) := by
  unfold send
  rw [h]

/-- Call by call a connection comes to what it comes to when all calls are written at once. -/
theorem sendAll_opened (peer : Option Ip) (r : Registry) (payloads : List Bytes) :
    (opened r).sendAll peer payloads =
      (opened (Client.converse r peer payloads).1, (Client.converse r peer payloads).2) := by
  induction payloads generalizing r with
  | nil => rw [converse_nil, sendAll]
  | cons payload payloads ih =>
    unfold sendAll
    cases h : Frame.encode? payload with
    | ok frame => simp only [send_opened_of_ok h, ih, converse_of_ok h]
    | error fault => simp only [send_of_error h, ih, converse_of_error h]

end Link

/-! ## Every conversation -/

/-- Whether the calls of a conversation are written at once or one after the other: a call that is too
long fails and puts nothing on the wire, and every other call gets the next acknowledgement. With data it
is answered by whether the handler took exactly its command and data, and without data it is refused as a
malformed envelope. The registry in the end is what the handler made of the written calls with data. -/
theorem calls_reach_the_handler (r : Registry) (peer : Option Ip) (calls : List Call) :
    let talk := Client.converse r peer (calls.map Call.payload)
    let stream := Client.written (calls.map Call.payload)
    (Link.opened r).sendAll peer (calls.map Call.payload) = (Link.opened talk.1, talk.2) ∧
    talk.1 = handledAll peer r calls ∧
    (∀ i : Nat, talk.2[i]? =
      calls[i]?.map fun c => c.answer (handledAll peer r (calls.take i)) peer) ∧
    Frame.Framed stream ((calls.filter Call.isWritten).map Call.payload) [] ∧
    (serve r peer stream).2 = talk.2.filterMap Except.toOption ∧
    ∀ (c : Call) (s : Registry),
      (c.data = [] → handlePayload s peer c.payload = (s, .error .malformedEnvelope)) ∧
      (c.data ≠ [] → handlePayload s peer c.payload =
        ((handle s peer c.command c.data).1,
          (handle s peer c.command c.data).2.map fun _ => c.command)) := by
  intro talk stream
  refine ⟨?_, ?_, ?_, ?_, ?_, ?_⟩
  · exact Link.sendAll_opened peer r (calls.map Call.payload)
  · exact converse_fst r peer calls
  · exact getElem?_converse r peer calls
  · exact framed_written calls
  · exact acks_eq_answers r peer calls
  · intro c s
    refine ⟨fun hdata => ?_, fun hdata => handlePayload_of_data hdata c.command s peer⟩
    unfold Call.payload
    rw [hdata]
    exact handlePayload_of_no_data c.command s peer

end HostFleet.Report
