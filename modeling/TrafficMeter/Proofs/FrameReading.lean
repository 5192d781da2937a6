/-
Module: TrafficMeter.Proofs.FrameReading
Purpose: Frames are read back as they were written.  `Frame.Holds bytes records` says that the bytes
  are whole frames and nothing else, and which records their payloads decode to; what is written for
  records that fit holds them, and reading takes them off the front one by one.
Main exports: LawfulRecord, Frame.Holds, Frame.Holds.ofRecords, Frame.Holds.ofBytes_append,
  Frame.Holds.unique
-/
import TrafficMeter.Spool.Log

namespace TrafficMeter.Spool

/-- Records that are decoded from their own bytes. -/
class LawfulRecord (α : Type) [Record α] : Prop where
  decode_of_encode : ∀ {record : α} {bytes : Bytes},
    Record.encode record = .ok bytes → Record.decode bytes = .ok record

variable {α : Type} [Record α]

/-- A record that is its own payload. -/
structure Octets where
  bytes : Bytes
deriving DecidableEq, Repr

instance : Record Octets where
  encode record := .ok record.bytes
  decode bytes := .ok ⟨bytes⟩

instance : LawfulRecord Octets where
  decode_of_encode := by
    intro record bytes encoded
    cases encoded
    rfl

/-! ### Payloads -/

/-- A record has a payload when it can be encoded, in no more bytes than a frame takes. -/
theorem Record.payload_eq_ok_iff {record : α} {bytes : Bytes} :
    Record.payload record = .ok bytes ↔
      Record.encode record = .ok bytes ∧ bytes.length ≤ largestPayload := by
  unfold Record.payload
  cases encoded : Record.encode record with
  | error error =>
      constructor
      · intro impossible
        cases impossible
      · rintro ⟨impossible, _⟩
        cases impossible
  | ok encoding =>
      show (if largestPayload < encoding.length then
        Except.error (StorageError.frameTooLarge encoding.length) else .ok encoding) = .ok bytes ↔ _
      by_cases long : largestPayload < encoding.length
      · rw [if_pos long]
        constructor
        · intro impossible
          cases impossible
        · rintro ⟨same, short⟩
          cases same
          omega
      · rw [if_neg long]
        constructor
        · intro same
          cases same
          exact ⟨rfl, Nat.le_of_not_lt long⟩
        · exact fun both => both.1

/-- A record fits if it has a payload. -/
theorem Record.fits_iff {record : α} :
    Record.fits record = true ↔ ∃ bytes, Record.payload record = .ok bytes := by
  unfold Record.fits
  cases Record.payload record with
  | error error =>
      apply iff_of_false Bool.false_ne_true
      rintro ⟨_, impossible⟩
      cases impossible
  | ok bytes => exact iff_of_true rfl ⟨bytes, rfl⟩

/-- The payload of a record is decoded as that record. -/
theorem Record.decode_of_payload [LawfulRecord α] {record : α} {bytes : Bytes}
    (payload : Record.payload record = .ok bytes) : Record.decode bytes = .ok record :=
  LawfulRecord.decode_of_encode (Record.payload_eq_ok_iff.mp payload).1

@[simp] theorem Log.Reading.ofBytes_nil (limit : Nat) :
    (Log.Reading.ofBytes limit [] : Log.Reading α) = ⟨[], 0, false⟩ := by
  cases limit <;> rfl

namespace Frame

/-! ### What is written -/

@[simp] theorem ofRecords_nil : ofRecords ([] : List α) = [] :=
  rfl

/-- Records stand in a log one after another. -/
theorem ofRecords_append (front back : List α) :
    ofRecords (front ++ back) = ofRecords front ++ ofRecords back :=
  List.flatMap_append

theorem ofRecords_cons_of_payload {record : α} {payload : Bytes} (others : List α)
    (fitting : Record.payload record = .ok payload) :
    ofRecords (record :: others) = ofPayload payload ++ ofRecords others := by
  rw [ofRecords, List.flatMap_cons, fitting]
  rfl

/-- A record that fits in no frame is left out. -/
theorem ofRecords_cons_of_not_fits {record : α} (others : List α)
    (unfit : Record.fits record = false) : ofRecords (record :: others) = ofRecords others := by
  cases found : Record.payload record with
  | error error =>
      rw [ofRecords, List.flatMap_cons, found]
      rfl
  | ok payload =>
      rw [Record.fits, found] at unfit
      cases unfit

/-- So leaving such records out beforehand makes no difference. -/
theorem ofRecords_filter_fits (records : List α) :
    ofRecords (records.filter Record.fits) = ofRecords records := by
  induction records with
  | nil => rfl
  | cons record others ih =>
      by_cases fits : Record.fits record = true
      · obtain ⟨payload, fitting⟩ := Record.fits_iff.mp fits
        rw [List.filter_cons_of_pos fits, ofRecords_cons_of_payload _ fitting,
          ofRecords_cons_of_payload _ fitting, ih]
      · rw [List.filter_cons_of_neg fits, ih,
          ofRecords_cons_of_not_fits _ (eq_false_of_ne_true fits)]

theorem length_ofPayload (payload : Bytes) :
    (ofPayload payload).length = headerLength + payload.length := by
  rw [ofPayload, List.length_append, Bytes.length_littleEndian]

/-- A header tells the length of its payload, which two octets can say. -/
theorem ofLittleEndian_header {payload : Bytes} (short : payload.length ≤ largestPayload) :
    Bytes.ofLittleEndian (Bytes.littleEndian headerLength payload.length) = payload.length :=
  Bytes.ofLittleEndian_littleEndian _ _ (Nat.lt_succ_of_le short)

/-- The first frame is read off whatever follows it. -/
theorem next?_ofPayload_append {payload : Bytes} (short : payload.length ≤ largestPayload)
    (rest : Bytes) : next? (ofPayload payload ++ rest) = some (payload, rest) := by
  have header := ofLittleEndian_header short
  unfold ofPayload next?
  simp only [headerLength, Bytes.littleEndian, List.cons_append, List.nil_append] at header ⊢
  rw [header, List.take_left, List.drop_left, if_pos rfl]

/-- Reading a frame divides the bytes into its header, its payload and the rest. -/
theorem length_add_of_next? {bytes payload rest : Bytes} (found : next? bytes = some (payload, rest)) :
    headerLength + payload.length + rest.length = bytes.length := by
  unfold next? at found
  split at found
  · next low high behind =>
      dsimp only at found
      split at found
      · next complete =>
          cases found
          rw [List.length_take] at complete
          rw [List.length_take, List.length_drop, List.length_cons, List.length_cons, headerLength]
          omega
      · cases found
  · cases found

/-- Adding up lengths steps over a payload that lies inside the file. -/
theorem completeEnd_ofPayload_append {payload : Bytes} (short : payload.length ≤ largestPayload)
    (rest : Bytes) {length position : Nat}
    (inside : position + (headerLength + payload.length) ≤ length) :
    completeEnd length position (ofPayload payload ++ rest) =
      completeEnd length (position + (headerLength + payload.length)) rest := by
  have header := ofLittleEndian_header short
  have shape : ofPayload payload ++ rest =
      UInt8.ofNat payload.length :: UInt8.ofNat (payload.length / 256) :: (payload ++ rest) := rfl
  have octets : Bytes.ofLittleEndian
      [UInt8.ofNat payload.length, UInt8.ofNat (payload.length / 256)] = payload.length := header
  rw [shape, completeEnd, octets, if_neg (Nat.not_lt_of_le inside), Nat.add_sub_cancel_left,
    List.drop_left]

/-! ### Whole frames -/

/-- The bytes are whole frames, and their payloads decode to these records, in order. -/
inductive Holds : Bytes → List α → Prop where
  | nil : Holds [] []
  | cons {payload rest : Bytes} {record : α} {records : List α}
      (short : payload.length ≤ largestPayload)
      (decoded : Record.decode payload = .ok record) (tail : Holds rest records) :
      Holds (ofPayload payload ++ rest) (record :: records)

namespace Holds

/-- Frames behind frames hold the records of both. -/
theorem append {front back : Bytes} {first second : List α} (one : Holds front first)
    (two : Holds back second) : Holds (front ++ back) (first ++ second) := by
  induction one with
  | nil => exact two
  | cons short decoded _ ih =>
      rw [List.append_assoc, List.cons_append]
      exact .cons short decoded ih

/-- What is written for records holds those of them that fit. -/
theorem ofRecords [LawfulRecord α] (records : List α) :
    Holds (Frame.ofRecords records) (records.filter Record.fits) := by
  induction records with
  | nil => exact .nil
  | cons record others ih =>
      by_cases fits : Record.fits record = true
      · obtain ⟨payload, fitting⟩ := Record.fits_iff.mp fits
        rw [List.filter_cons_of_pos fits, ofRecords_cons_of_payload _ fitting]
        exact .cons (Record.payload_eq_ok_iff.mp fitting).2 (Record.decode_of_payload fitting) ih
      · rw [List.filter_cons_of_neg fits,
          ofRecords_cons_of_not_fits _ (eq_false_of_ne_true fits)]
        exact ih

theorem eq_nil {bytes : Bytes} (held : Holds bytes ([] : List α)) : bytes = [] := by
  cases held
  rfl

theorem bytes_ne_nil {bytes : Bytes} {record : α} {records : List α}
    (held : Holds bytes (record :: records)) : bytes ≠ [] := by
  cases held with
  | cons short decoded tail =>
      intro none
      have length := congrArg List.length none
      rw [List.length_append, length_ofPayload, List.length_nil, headerLength] at length
      omega

/-- No bytes hold no records, and a record takes at least a header. -/
theorem bytes_eq_nil_iff {bytes : Bytes} {records : List α} (held : Holds bytes records) :
    bytes = [] ↔ records = [] := by
  cases records with
  | nil => exact iff_of_true held.eq_nil rfl
  | cons record records => exact iff_of_false held.bytes_ne_nil (List.cons_ne_nil _ _)

/-- The same bytes hold the same records. -/
theorem unique {bytes : Bytes} {first second : List α} (one : Holds bytes first)
    (two : Holds bytes second) : first = second := by
  induction one generalizing second with
  | nil =>
      cases second with
      | nil => rfl
      | cons record records => exact absurd rfl two.bytes_ne_nil
  | @cons payload rest record records short decoded tail ih =>
      generalize whole : ofPayload payload ++ rest = bytes at two
      cases two with
      | nil => exact absurd whole (Holds.cons short decoded tail).bytes_ne_nil
      | @cons otherPayload otherRest otherRecord others otherShort otherDecoded otherTail =>
          -- the header tells where the first payload ends, so both lists begin with the same one
          have read := next?_ofPayload_append short rest
          rw [whole, next?_ofPayload_append otherShort] at read
          cases read
          rw [decoded] at otherDecoded
          cases otherDecoded
          rw [ih otherTail]

/-- The bytes of the first so many records, and those of the others. -/
theorem split {bytes : Bytes} {records : List α} (held : Holds bytes records) (count : Nat) :
    ∃ front back, bytes = front ++ back ∧ Holds front (records.take count) ∧
      Holds back (records.drop count) := by
  induction held generalizing count with
  | nil =>
      rw [List.take_nil, List.drop_nil]
      exact ⟨[], [], rfl, .nil, .nil⟩
  | @cons payload rest record records short decoded tail ih =>
      cases count with
      | zero => exact ⟨[], ofPayload payload ++ rest, rfl, .nil, .cons short decoded tail⟩
      | succ count =>
          obtain ⟨front, back, whole, first, others⟩ := ih count
          refine ⟨ofPayload payload ++ front, back, ?_, .cons short decoded first, others⟩
          rw [whole, List.append_assoc]

/-! ### Reading -/

/-- Reading takes the records held off the front and goes on behind them. -/
theorem ofBytes_append {front : Bytes} {records : List α} (held : Holds front records)
    (limit : Nat) (rest : Bytes) :
    let more : Log.Reading α := .ofBytes limit rest
    Log.Reading.ofBytes (records.length + limit) (front ++ rest) =
      ⟨records ++ more.records, front.length + more.consumed, more.corrupted⟩ := by
  intro more
  induction held with
  | nil =>
      rw [List.length_nil, Nat.zero_add, List.length_nil, Nat.zero_add]
      rfl
  | @cons payload front record records short decoded tail ih =>
      have count : (record :: records).length + limit = records.length + limit + 1 := by
        rw [List.length_cons]
        omega
      rw [count, List.append_assoc, Log.Reading.ofBytes, next?_ofPayload_append short]
      simp only [decoded, ih, List.cons_append, List.length_append, length_ofPayload,
        Nat.add_assoc]

/-- Reading stops behind the records that were asked for, or at the end. -/
theorem ofBytes_of_split {front back : Bytes} {taken left : List α} (first : Holds front taken)
    (others : Holds back left) {limit : Nat}
    (enough : taken.length = limit ∨ taken.length ≤ limit ∧ left = []) :
    (Log.Reading.ofBytes limit (front ++ back) : Log.Reading α) = ⟨taken, front.length, false⟩ := by
  rcases enough with exactly | ⟨fewer, none⟩
  · have read := first.ofBytes_append 0 back
    rw [Nat.add_zero, exactly] at read
    rw [read, Log.Reading.ofBytes, List.append_nil, Nat.add_zero]
  · subst none
    have read := first.ofBytes_append (limit - taken.length) []
    rw [Nat.add_sub_cancel' fewer, Log.Reading.ofBytes_nil] at read
    rw [others.eq_nil, read, List.append_nil, Nat.add_zero]

omit [Record α] in
/-- As many records as are asked for are there, or these are all. -/
theorem take_enough (records : List α) (limit : Nat) :
    (records.take limit).length = limit ∨
      (records.take limit).length ≤ limit ∧ records.drop limit = [] := by
  rcases Nat.le_total limit records.length with enough | few
  · exact .inl (List.length_take_of_le enough)
  · exact .inr ⟨List.length_take_le _ _, List.drop_eq_nil_of_le few⟩

/-- Reading so many records of those held gives them, and takes their bytes. -/
theorem ofBytes_eq {bytes : Bytes} {records : List α} (held : Holds bytes records)
    (limit : Nat) : ∃ front back, bytes = front ++ back ∧
      (Log.Reading.ofBytes limit bytes : Log.Reading α) =
        ⟨records.take limit, front.length, false⟩ ∧
      Holds back (records.drop limit) := by
  obtain ⟨front, back, whole, first, others⟩ := held.split limit
  refine ⟨front, back, whole, ?_, others⟩
  rw [whole]
  exact first.ofBytes_of_split others (take_enough records limit)

/-- The frames of records that fit hold these records. -/
theorem ofRecords_of_fits [LawfulRecord α] {records : List α}
    (fitting : ∀ record ∈ records, Record.fits record = true) :
    Holds (Frame.ofRecords records) records := by
  have held := Holds.ofRecords records
  rwa [List.filter_eq_self.mpr fitting] at held

/-- From frames of records, the next so many are read, and their bytes are consumed. -/
theorem ofBytes_ofRecords [LawfulRecord α] {records : List α}
    (fitting : ∀ record ∈ records, Record.fits record = true) (limit : Nat) :
    (Log.Reading.ofBytes limit (Frame.ofRecords records) : Log.Reading α) =
      ⟨records.take limit, (Frame.ofRecords (records.take limit)).length, false⟩ := by
  have first : Holds (Frame.ofRecords (records.take limit)) (records.take limit) :=
    ofRecords_of_fits fun record member => fitting record (List.mem_of_mem_take member)
  have others : Holds (Frame.ofRecords (records.drop limit)) (records.drop limit) :=
    ofRecords_of_fits fun record member => fitting record (List.mem_of_mem_drop member)
  have read := first.ofBytes_of_split others (take_enough records limit)
  rwa [← ofRecords_append, List.take_append_drop] at read

end Holds

end Frame

end TrafficMeter.Spool
