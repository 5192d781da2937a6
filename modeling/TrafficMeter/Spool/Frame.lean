/-
Module: TrafficMeter.Spool.Frame
Purpose: Frames: a payload behind its length in two octets, least significant first.  Frames are
  written one after another, read one at a time, in a packed byte string by their position, and
  measured without being read.
Main exports: Frame.ofPayload, Frame.ofRecords, Frame.next?, Frame.payloadAt?, Frame.completeEnd
-/
import TrafficMeter.Spool.Record

namespace TrafficMeter.Spool.Frame

/-- The number of octets that hold the length. -/
def headerLength : Nat := 2

/-- A payload behind its length. -/
def ofPayload (payload : Bytes) : Bytes :=
  Bytes.littleEndian headerLength payload.length ++ payload

/-- The frames of those records that fit in one, in order. -/
def ofRecords {α : Type} [Record α] (records : List α) : Bytes :=
  records.flatMap fun record =>
    match Record.payload record with
    | .ok payload => ofPayload payload
    | .error _ => []

/-- The payload of the first frame and what follows it; `none` when there is no complete frame. -/
def next? : Bytes → Option (Bytes × Bytes)
  | low :: high :: rest =>
      let length := Bytes.ofLittleEndian [low, high]
      let payload := rest.take length
      if payload.length = length then some (payload, rest.drop length) else none
  | _ => none

theorem length_of_next? {bytes payload rest : Bytes} (h : next? bytes = some (payload, rest)) :
    rest.length < bytes.length := by
  unfold next? at h
  split at h
  · dsimp only at h
    split at h
    · simp only [Option.some.injEq, Prod.mk.injEq] at h
      obtain ⟨-, rfl⟩ := h
      simp only [List.length_drop, List.length_cons]
      omega
    · simp at h
  · simp at h

/-- What follows the first frame begins behind its length and its payload. -/
theorem eq_drop_of_next? {bytes payload rest : Bytes} (h : next? bytes = some (payload, rest)) :
    rest = bytes.drop (headerLength + payload.length) := by
  unfold next? at h
  split at h
  · dsimp only at h
    split at h
    · next low high rest complete =>
      simp only [Option.some.injEq, Prod.mk.injEq] at h
      obtain ⟨rfl, rfl⟩ := h
      rw [complete, headerLength, Nat.add_comm, List.drop_succ_cons, List.drop_succ_cons]
    · simp at h
  · simp at h

/-- The payload of the frame at a position of a packed byte string. -/
def payloadAt? (packed : ByteArray) (position : Nat) : Option Bytes :=
  let start := position + headerLength
  match Bytes.ofPacked (packed.extract position start) with
  | [low, high] =>
      let length := Bytes.ofLittleEndian [low, high]
      let payload := Bytes.ofPacked (packed.extract start (start + length))
      if payload.length = length then some payload else none
  | _ => none

/-- The frame at a position is the first one of what stands from there on. -/
theorem payloadAt?_eq (packed : ByteArray) (position : Nat) :
    payloadAt? packed position =
      (next? ((Bytes.ofPacked packed).drop position)).map Prod.fst := by
  unfold payloadAt? next?
  simp only [Bytes.ofPacked_extract, headerLength, Nat.add_sub_cancel_left]
  rw [← List.drop_drop]
  generalize (Bytes.ofPacked packed).drop position = rest
  match rest with
  | [] => rfl
  | [_] => rfl
  | low :: high :: rest =>
    simp only [List.take_succ_cons, List.take_zero, List.drop_succ_cons, List.drop_zero]
    split <;> rfl

/-- The payloads of the complete frames at the front. -/
def payloads (bytes : Bytes) : List Bytes :=
  match _h : next? bytes with
  | some (payload, rest) => payload :: payloads rest
  | none => []
  termination_by bytes.length
  decreasing_by exact length_of_next? _h

/-- The position behind the last complete frame of a file, found by adding up lengths: `rest` is
what the file of the given length holds from `position` on. -/
def completeEnd (length position : Nat) : Bytes → Nat
  | low :: high :: rest =>
      let frameLength := headerLength + Bytes.ofLittleEndian [low, high]
      if length < position + frameLength then position
      else completeEnd length (position + frameLength) (rest.drop (frameLength - headerLength))
  | _ => position
  termination_by bytes => bytes.length
  decreasing_by simp only [List.length_drop, List.length_cons]; omega

end TrafficMeter.Spool.Frame
