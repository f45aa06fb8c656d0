import HostFleet.Proofs.Report.Acceptable
import HostFleet.Proofs.Report.Effect
import HostFleet.Proofs.Report.Framing
import HostFleet.Report.Connection
import Mathlib.Data.List.Forall2

/-! # Acknowledgements

* `acknowledge_eq`: an acceptable payload is carried out as a whole, any other leaves the registry alone.
* `Acknowledges`: the byte with which a payload is answered; `acknowledges_acknowledgeAll`: one each.
* `takenOf`: the payloads that were answered by 1; `registry_acknowledgeAll`: only they count.
* `serve_acknowledges_frames`: what comes of any stream on a report connection.
-/

set_option autoImplicit false

namespace HostFleet.Report

variable {payload : Bytes}

/-! ## One payload -/

theorem handlePayload_of_not_acceptable (h : ¬Acceptable payload) (r : Registry)
    (peer : Option Ip) : (handlePayload r peer payload).1 = r := by
  cases hchange : Reporter.change? payload with
  | ok change => exact absurd (exists_change?_iff.1 ⟨change, hchange⟩) h
  | error fault => rw [handlePayload_of_error hchange]

theorem acknowledge_iff (peer : Option Ip) (r : Registry) (payload : Bytes) :
    (acknowledge peer r payload).2 = true ↔ Acceptable payload := by
  rw [← exists_change?_iff]
  have hack : (acknowledge peer r payload).2 = (handlePayload r peer payload).2.isOk := rfl
  rw [hack]
  cases hchange : Reporter.change? payload with
  | ok change =>
    obtain ⟨command, hcommand⟩ := (handlePayload_of_ok hchange).2
    rw [hcommand]
    simp [Except.isOk, Except.toBool]
  | error fault =>
    rw [handlePayload_of_error hchange]
    simp [Except.isOk, Except.toBool]

/-! ## One after another -/

/-- The byte is the right answer to the payload. -/
def Acknowledges (payload : Bytes) (ack : UInt8) : Prop :=
  (Acceptable payload ∧ ack = 1) ∨ (¬Acceptable payload ∧ ack = 0)

/-- The payloads that were answered by 1. -/
def takenOf (payloads : List Bytes) (acks : List UInt8) : List Bytes :=
  ((payloads.zip acks).filter (·.2 == 1)).map (·.1)

theorem acknowledges_ackByte (peer : Option Ip) (r : Registry) (payload : Bytes) :
    Acknowledges payload (ackByte (acknowledge peer r payload).2) := by
  have hiff := acknowledge_iff peer r payload
  unfold Acknowledges ackByte
  split
  · next h => exact .inl ⟨hiff.1 h, rfl⟩
  · next h => exact .inr ⟨fun hacceptable => h (hiff.2 hacceptable), rfl⟩

theorem acknowledges_acknowledgeAll (peer : Option Ip) (r : Registry) (payloads : List Bytes) :
    List.Forall₂ Acknowledges payloads ((acknowledgeAll peer r payloads).2.map ackByte) := by
  induction payloads generalizing r with
  | nil => exact .nil
  | cons payload payloads ih =>
    exact .cons (acknowledges_ackByte peer r payload) (ih (acknowledge peer r payload).1)

theorem registry_acknowledgeAll (peer : Option Ip) (r : Registry) (payloads : List Bytes) :
    (acknowledgeAll peer r payloads).1 =
      (takenOf payloads ((acknowledgeAll peer r payloads).2.map ackByte)).foldl
        (fun r payload => (handlePayload r peer payload).1) r := by
  induction payloads generalizing r with
  | nil => rfl
  | cons payload payloads ih =>
    have hrest := ih (acknowledge peer r payload).1
    have hregistry : (acknowledge peer r payload).1 = (handlePayload r peer payload).1 := rfl
    have hiff := acknowledge_iff peer r payload
    rw [hregistry] at hrest
    have hall : acknowledgeAll peer r (payload :: payloads) =
        ((acknowledgeAll peer (handlePayload r peer payload).1 payloads).1,
          (acknowledge peer r payload).2 ::
            (acknowledgeAll peer (handlePayload r peer payload).1 payloads).2) := rfl
    rw [hall]
    unfold takenOf
    rw [List.map_cons, List.zip_cons_cons, List.filter_cons]
    cases hack : (acknowledge peer r payload).2 with
    | true => exact hrest
    | false =>
      have hrefused : ¬Acceptable payload := by
        rw [← hiff, hack]
        exact Bool.false_ne_true
      rw [handlePayload_of_not_acceptable hrefused] at hrest ⊢
      exact hrest

/-! ## Connections -/

/-- Every stream is cut into frames in one way. Each frame is answered by one byte, in order: by 1 if its
payload is acceptable and by 0 if not. A payload that is not acceptable never changes a registry, the final
registry is what the payloads answered by 1 make of it, and a rest that is no whole frame does nothing. -/
theorem serve_acknowledges_frames (r : Registry) (peer : Option Ip) (stream : Bytes) :
    ∃ payloads rest, Frame.Framed stream payloads rest ∧
      (∀ payloads' rest', Frame.Framed stream payloads' rest' →
        payloads' = payloads ∧ rest' = rest) ∧
      let acks := (serve r peer stream).2.map ackByte
      List.Forall₂ Acknowledges payloads acks ∧
      (∀ payload, ¬Acceptable payload → ∀ s : Registry, (handlePayload s peer payload).1 = s) ∧
      (serve r peer stream).1 =
        (takenOf payloads acks).foldl (fun r payload => (handlePayload r peer payload).1) r ∧
      ∃ whole, stream = whole ++ rest ∧ Frame.Framed whole payloads [] ∧
        serve r peer whole = serve r peer stream := by
  obtain ⟨rest, hframed⟩ := Frame.framed_readAll stream
  refine ⟨(Frame.readAll stream).1, rest, hframed, fun _ _ h => hframed.unique h, ?_, ?_, ?_, ?_⟩
  · exact acknowledges_acknowledgeAll peer r (Frame.readAll stream).1
  · exact fun payload h s => handlePayload_of_not_acceptable h s peer
  · exact registry_acknowledgeAll peer r (Frame.readAll stream).1
  · obtain ⟨whole, hstream, hwhole⟩ := hframed.complete
    refine ⟨whole, hstream, hwhole, ?_⟩
    unfold serve
    rw [hwhole.readAll_eq]

end HostFleet.Report
