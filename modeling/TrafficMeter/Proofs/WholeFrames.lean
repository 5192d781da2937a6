/-
Module: TrafficMeter.Proofs.WholeFrames
Purpose: Any bytes are whole frames with a torn end behind them.  The two ways to go over them agree:
  reading frame by frame, and adding up the lengths, stop at the same place, whatever the payloads are.
Main exports: Frame.next?_eq_some_iff, Frame.wholePart, Frame.frameInduction, Frame.exists_torn,
  Frame.payloads_drop, Frame.completeEnd_eq_wholePart
-/
import TrafficMeter.Proofs.FrameReading

namespace TrafficMeter.Spool.Frame

variable {α : Type} [Record α]

/-- A frame at the front is what its payload is written as. -/
theorem next?_eq_some_iff {bytes payload rest : Bytes} :
    next? bytes = some (payload, rest) ↔
      payload.length ≤ largestPayload ∧ bytes = ofPayload payload ++ rest := by
  constructor
  · intro found
    unfold next? at found
    split at found
    · next low high behind =>
        dsimp only at found
        split at found
        · next complete =>
            cases found
            have header := Bytes.littleEndian_ofLittleEndian [low, high]
            have short := Bytes.ofLittleEndian_lt [low, high]
            refine ⟨Nat.le_of_lt_succ (Nat.lt_of_le_of_lt (Nat.le_of_eq complete) short), ?_⟩
            simp only [List.length_cons, List.length_nil] at header
            rw [ofPayload, complete, headerLength, header]
            simp
        · cases found
    · cases found
  · rintro ⟨short, rfl⟩
    exact next?_ofPayload_append short rest

/-- Bytes begin with a frame, or with none that is complete; what is true of the others is true of
all if a frame may be put in front. -/
theorem frameInduction {motive : Bytes → Prop}
    (torn : ∀ bytes, next? bytes = none → motive bytes)
    (frame : ∀ payload rest, payload.length ≤ largestPayload → motive rest →
      motive (ofPayload payload ++ rest)) (bytes : Bytes) : motive bytes := by
  cases found : next? bytes with
  | none => exact torn bytes found
  | some read =>
      obtain ⟨payload, rest⟩ := read
      have shorter := length_of_next? found
      obtain ⟨short, rfl⟩ := next?_eq_some_iff.mp found
      exact frame payload rest short (frameInduction torn frame rest)
  termination_by bytes.length

/-! ### The frames at the front -/

/-- The complete frames at the front. -/
def wholePart (bytes : Bytes) : Bytes :=
  (payloads bytes).flatMap ofPayload

/-- The first frame's payload comes first. -/
theorem payloads_of_next? {bytes payload rest : Bytes} (found : next? bytes = some (payload, rest)) :
    payloads bytes = payload :: payloads rest := by
  rw [payloads]
  split
  · next payload' rest' found' =>
      cases found.symm.trans found'
      rfl
  · next none => cases none.symm.trans found

/-- Where no frame is whole there are no payloads. -/
theorem payloads_of_next?_none {bytes : Bytes} (torn : next? bytes = none) : payloads bytes = [] := by
  rw [payloads]
  split
  · next payload rest found => cases torn.symm.trans found
  · rfl

theorem payloads_ofPayload_append {payload : Bytes} (short : payload.length ≤ largestPayload)
    (rest : Bytes) : payloads (ofPayload payload ++ rest) = payload :: payloads rest :=
  payloads_of_next? (next?_ofPayload_append short rest)

theorem wholePart_ofPayload_append {payload : Bytes} (short : payload.length ≤ largestPayload)
    (rest : Bytes) :
    wholePart (ofPayload payload ++ rest) = ofPayload payload ++ wholePart rest := by
  rw [wholePart, payloads_ofPayload_append short, List.flatMap_cons, wholePart]

theorem wholePart_of_next?_none {bytes : Bytes} (torn : next? bytes = none) :
    wholePart bytes = [] := by
  rw [wholePart, payloads_of_next?_none torn, List.flatMap_nil]

/-- What is left behind the whole frames begins with no complete one. -/
theorem exists_torn (bytes : Bytes) :
    ∃ torn, bytes = wholePart bytes ++ torn ∧ next? torn = none := by
  induction bytes using frameInduction with
  | torn bytes none => exact ⟨bytes, by simp [wholePart_of_next?_none none], none⟩
  | frame payload rest short ih =>
      obtain ⟨torn, whole, none⟩ := ih
      refine ⟨torn, ?_, none⟩
      rw [wholePart_ofPayload_append short, List.append_assoc, ← whole]

/-- The whole frames stand at the front; the torn end is behind them. -/
theorem wholePart_isPrefix (bytes : Bytes) : wholePart bytes <+: bytes := by
  obtain ⟨torn, whole, _⟩ := exists_torn bytes
  exact ⟨torn, whole.symm⟩

/-- The first frames are in front of what is left when they are taken away. -/
theorem take_payloads_append_drop (bytes : Bytes) (count : Nat) :
    let front := ((payloads bytes).take count).flatMap ofPayload
    front ++ bytes.drop front.length = bytes := by
  intro front
  have whole : wholePart bytes = front ++ ((payloads bytes).drop count).flatMap ofPayload := by
    rw [wholePart, ← List.flatMap_append, List.take_append_drop]
  have first : front <+: bytes := (whole ▸ List.prefix_append _ _).trans (wholePart_isPrefix bytes)
  exact List.prefix_iff_eq_append.mp first

/-- Behind the first frames the others follow. -/
theorem payloads_drop (bytes : Bytes) (count : Nat) :
    payloads (bytes.drop (((payloads bytes).take count).flatMap ofPayload).length) =
      (payloads bytes).drop count := by
  induction bytes using frameInduction generalizing count with
  | torn bytes none =>
      rw [payloads_of_next?_none none, List.take_nil, List.flatMap_nil, List.length_nil,
        List.drop_zero, payloads_of_next?_none none, List.drop_nil]
  | frame payload rest short ih =>
      cases count with
      | zero => rfl
      | succ count =>
          rw [payloads_ofPayload_append short, List.take_succ_cons, List.flatMap_cons,
            List.length_append, ← List.drop_drop, List.drop_left, List.drop_succ_cons, ih]

/-- Whole frames stay whole, whatever is written behind them. -/
theorem wholePart_wholePart_append (front back : Bytes) :
    wholePart (wholePart front ++ back) = wholePart front ++ wholePart back := by
  induction front using frameInduction with
  | torn front none => simp [wholePart_of_next?_none none]
  | frame payload rest short ih =>
      simp only [wholePart_ofPayload_append short, List.append_assoc, ih]

theorem wholePart_ofRecords (records : List α) :
    wholePart (ofRecords records) = ofRecords records := by
  induction records with
  | nil => exact wholePart_of_next?_none rfl
  | cons record others ih =>
      by_cases fits : Record.fits record = true
      · obtain ⟨payload, fitting⟩ := Record.fits_iff.mp fits
        rw [ofRecords_cons_of_payload others fitting,
          wholePart_ofPayload_append (Record.payload_eq_ok_iff.mp fitting).2, ih]
      · rw [ofRecords_cons_of_not_fits others (eq_false_of_ne_true fits), ih]

/-- Bytes that hold records have no torn end. -/
theorem Holds.wholePart_eq {bytes : Bytes} {records : List α} (held : Holds bytes records) :
    wholePart bytes = bytes := by
  induction held with
  | nil => exact wholePart_of_next?_none rfl
  | cons short decoded _ ih => rw [wholePart_ofPayload_append short, ih]

/-! ### Adding up lengths -/

theorem completeEnd_of_next?_none {bytes : Bytes} (torn : next? bytes = none) (position : Nat) :
    completeEnd (position + bytes.length) position bytes = position := by
  match bytes, torn with
  | [], _ => simp [completeEnd]
  | [_], _ => simp [completeEnd]
  | low :: high :: rest, torn =>
      simp only [next?, ite_eq_right_iff, reduceCtorEq, imp_false, List.length_take] at torn
      rw [completeEnd, if_pos]
      simp only [List.length_cons, headerLength]
      omega

/-- Adding up lengths ends where the frames end that reading finds. -/
theorem completeEnd_eq_wholePart (bytes : Bytes) (position : Nat) :
    completeEnd (position + bytes.length) position bytes =
      position + (wholePart bytes).length := by
  induction bytes using frameInduction generalizing position with
  | torn bytes none => simp [completeEnd_of_next?_none none, wholePart_of_next?_none none]
  | frame payload rest short ih =>
      have length : position + (ofPayload payload ++ rest).length =
          position + (headerLength + payload.length) + rest.length := by
        simp only [List.length_append, length_ofPayload, Nat.add_assoc]
      rw [length, completeEnd_ofPayload_append short rest (Nat.le_add_right _ _), ih,
        wholePart_ofPayload_append short, List.length_append, length_ofPayload, Nat.add_assoc]

end TrafficMeter.Spool.Frame
