/-
Module: TrafficMeter.Proofs.BatchReading
Purpose: Batches are read back as they were written.  A receiver who reads from the beginning of a
  batch on reads this batch and not a byte more, so that batches written one after another come apart
  again; and a batch with a record that cannot be written leaves the stream alone.
Main exports: Record.Refuses, Batch.Encodes, Batch.read?_eq_some_iff, Batch.payloads_eq_ok_iff,
  Batch.payloads_of_refused, Batch.readAll, batches_read_back
-/
import Mathlib.Data.List.Forall2
import TrafficMeter.Delivery.Batch
import TrafficMeter.Proofs.WholeFrames

namespace TrafficMeter.Spool

/-- Why a record cannot be written: it has no encoding, or one that is too long for a frame. -/
inductive Record.Refuses {α : Type} [Record α] (record : α) : StorageError → Prop where
  | unencodable {error : StorageError} (failed : Record.encode record = .error error) :
      Refuses record error
  | tooLong {bytes : Bytes} (encoded : Record.encode record = .ok bytes)
      (long : 65535 < bytes.length) : Refuses record (.frameTooLarge bytes.length)

/-- The reason why a record has no payload: it cannot be encoded, or its encoding is too long for a
frame. -/
theorem Record.payload_eq_error_iff {α : Type} [Record α] {record : α} {error : StorageError} :
    Record.payload record = .error error ↔ Record.Refuses record error := by
  constructor
  · intro refused
    rw [Record.payload] at refused
    cases encoded : Record.encode record with
    | error other =>
        rw [encoded] at refused
        cases refused
        exact .unencodable encoded
    | ok bytes =>
        rw [encoded] at refused
        change (if largestPayload < bytes.length then
          Except.error (StorageError.frameTooLarge bytes.length) else .ok bytes) = _ at refused
        by_cases long : largestPayload < bytes.length
        · rw [if_pos long] at refused
          cases refused
          exact .tooLong encoded long
        · rw [if_neg long] at refused
          cases refused
  · intro refuses
    cases refuses with
    | unencodable failed =>
        rw [Record.payload, failed]
        rfl
    | tooLong encoded long =>
        rw [Record.payload, encoded]
        exact if_pos long

end TrafficMeter.Spool

namespace TrafficMeter.Delivery

open Spool

namespace Batch

variable {α : Type} [Record α]

/-! ### What the receiver reads -/

/-- A batch on its way: the number of its payloads in four octets, and each payload behind its length
in two, numbers with the least significant octet first. -/
def wire (payloads : List Bytes) : Bytes :=
  Bytes.littleEndian 4 payloads.length ++
    payloads.flatMap fun payload => Bytes.littleEndian 2 payload.length ++ payload

/-- What is written of a batch is what the wire should show. -/
theorem ofPayloads_eq_wire (payloads : List Bytes) : ofPayloads payloads = wire payloads :=
  rfl

/-- So many payloads are read exactly from their frames, one after another; the induction is on
their number. -/
theorem readPayloads_eq_some_iff {count : Nat} {bytes rest : Bytes} {payloads : List Bytes} :
    readPayloads count bytes = some (payloads, rest) ↔
      payloads.length = count ∧ (∀ payload ∈ payloads, payload.length ≤ largestPayload) ∧
        bytes = payloads.flatMap Frame.ofPayload ++ rest := by
  induction count generalizing bytes payloads with
  | zero =>
      constructor
      · intro read
        cases read
        exact ⟨rfl, List.forall_mem_nil _, rfl⟩
      · rintro ⟨none, -, rfl⟩
        cases List.eq_nil_of_length_eq_zero none
        rfl
  | succ count ih =>
      constructor
      · intro read
        simp only [readPayloads, Option.bind_eq_bind, Option.bind_eq_some_iff] at read
        obtain ⟨⟨payload, behind⟩, first, ⟨others, left⟩, later, same⟩ := read
        cases same
        obtain ⟨short, rfl⟩ := Frame.next?_eq_some_iff.mp first
        obtain ⟨length, shorts, rfl⟩ := ih.mp later
        refine ⟨congrArg Nat.succ length, List.forall_mem_cons.mpr ⟨short, shorts⟩, ?_⟩
        rw [List.flatMap_cons, List.append_assoc]
      · rintro ⟨length, shorts, rfl⟩
        cases payloads with
        | nil => cases length
        | cons payload others =>
            obtain ⟨short, shorts⟩ := List.forall_mem_cons.mp shorts
            have later := ih.mpr ⟨Nat.succ.inj length, shorts, rfl⟩
            rw [List.flatMap_cons, List.append_assoc, readPayloads,
              Frame.next?_ofPayload_append short]
            simp [later]

/-- A receiver reads a batch exactly where one was written: its payloads are those of the batch, and
what it leaves is what stands behind the batch. -/
theorem read?_eq_some_iff {bytes rest : Bytes} {payloads : List Bytes} :
    read? bytes = some (payloads, rest) ↔
      payloads.length < Bytes.bound countLength ∧
        (∀ payload ∈ payloads, payload.length ≤ largestPayload) ∧
        bytes = ofPayloads payloads ++ rest := by
  rw [read?]
  constructor
  · intro read
    split at read
    · cases read
    · next long =>
        have width : (bytes.take countLength).length = countLength :=
          List.length_take_of_le (Nat.le_of_not_lt long)
        have count := Bytes.littleEndian_ofLittleEndian (bytes.take countLength)
        have small := Bytes.ofLittleEndian_lt (bytes.take countLength)
        obtain ⟨length, shorts, behind⟩ := readPayloads_eq_some_iff.mp read
        rw [width, ← length] at count small
        refine ⟨small, shorts, ?_⟩
        rw [ofPayloads, count, List.append_assoc, ← behind, List.take_append_drop]
  · rintro ⟨few, shorts, rfl⟩
    have width := Bytes.length_littleEndian countLength payloads.length
    have long : ¬ (ofPayloads payloads ++ rest).length < countLength := by
      rw [ofPayloads, List.length_append, List.length_append, width]
      omega
    rw [if_neg long, ofPayloads, List.append_assoc, List.take_left' width,
      List.drop_left' width, Bytes.ofLittleEndian_littleEndian _ _ few]
    exact readPayloads_eq_some_iff.mpr ⟨rfl, shorts, rfl⟩

/-- A receiver that reads from the beginning of a batch on reads this batch, and not a byte more. -/
theorem read?_ofPayloads_append {payloads : List Bytes}
    (short : ∀ payload ∈ payloads, payload.length ≤ largestPayload)
    (few : payloads.length < Bytes.bound countLength) (later : Bytes) :
    read? (ofPayloads payloads ++ later) = some (payloads, later) :=
  read?_eq_some_iff.mpr ⟨few, short, rfl⟩

theorem length_ofPayloads (payloads : List Bytes) :
    (ofPayloads payloads).length = countLength + (payloads.flatMap Frame.ofPayload).length := by
  rw [ofPayloads, List.length_append, Bytes.length_littleEndian]

/-- A batch takes bytes away, if only those of its count, so that reading on comes to an end. -/
theorem length_of_read? {bytes rest : Bytes} {payloads : List Bytes}
    (read : read? bytes = some (payloads, rest)) : rest.length < bytes.length := by
  obtain ⟨-, -, rfl⟩ := read?_eq_some_iff.mp read
  rw [List.length_append, length_ofPayloads, countLength]
  omega

/-- What a receiver reads who goes on until nothing is left: the payloads of one batch after the
other, or nothing if the bytes do not end with a batch. -/
def readAll (bytes : Bytes) : Option (List (List Bytes)) :=
  if bytes.isEmpty then some []
  else
    match _h : read? bytes with
    | some (payloads, rest) => (readAll rest).map (payloads :: ·)
    | none => none
  termination_by bytes.length
  decreasing_by exact length_of_read? _h

/-- One batch is read, and then the others. -/
theorem readAll_of_read? {bytes rest : Bytes} {payloads : List Bytes}
    (read : read? bytes = some (payloads, rest)) :
    readAll bytes = (readAll rest).map (payloads :: ·) := by
  have some : ¬ bytes.isEmpty = true := by
    intro none
    have shorter := length_of_read? read
    rw [List.isEmpty_iff.mp none] at shorter
    exact Nat.not_lt_zero _ shorter
  rw [readAll, if_neg some]
  split
  · next same =>
      cases read.symm.trans same
      rfl
  · next none => cases none.symm.trans read

/-! ### What is written -/

/-- The payloads are the encodings of the records, in order, and each fits in a frame. -/
def Encodes (records : List α) (payloads : List Bytes) : Prop :=
  List.Forall₂ (fun record payload =>
    Record.encode record = .ok payload ∧ payload.length ≤ 65535) records payloads

theorem payloads_cons {record : α} {others : List α} {written : List Bytes}
    (all : payloads (record :: others) = .ok written) :
    ∃ payload rest, Record.payload record = .ok payload ∧ payloads others = .ok rest ∧
      written = payload :: rest := by
  rw [payloads, List.mapM_cons] at all
  cases first : Record.payload record with
  | error error =>
      rw [first] at all
      cases all
  | ok payload =>
      cases later : payloads others with
      | error error =>
          rw [payloads] at later
          rw [first, later] at all
          cases all
      | ok rest =>
          rw [payloads] at later
          rw [first, later] at all
          cases all
          exact ⟨payload, rest, rfl, rfl, rfl⟩

/-- All records of a batch are encoded, or none is written. -/
theorem payloads_eq_ok_iff {records : List α} {written : List Bytes} :
    payloads records = .ok written ↔ Encodes records written := by
  constructor
  · intro all
    induction records generalizing written with
    | nil =>
        cases all
        exact .nil
    | cons record others ih =>
        obtain ⟨payload, rest, first, later, rfl⟩ := payloads_cons all
        exact .cons (Record.payload_eq_ok_iff.mp first) (ih later)
  · intro encodes
    induction encodes with
    | nil => rfl
    | cons first _ ih =>
        rw [payloads] at ih
        rw [payloads, List.mapM_cons, Record.payload_eq_ok_iff.mpr first, ih]
        rfl

namespace Encodes

variable {records : List α} {written : List Bytes}

theorem length_eq (encodes : Encodes records written) : written.length = records.length :=
  (List.Forall₂.length_eq encodes).symm

/-- No payload is longer than its frame can say. -/
theorem short (encodes : Encodes records written) :
    ∀ payload ∈ written, payload.length ≤ largestPayload := by
  induction encodes with
  | nil => exact List.forall_mem_nil _
  | cons first _ ih => exact List.forall_mem_cons.mpr ⟨first.2, ih⟩

end Encodes

/-- Batches written one after another come apart again. -/
theorem readAll_of_encodes {batches : List (List α)} {contents : List (List Bytes)}
    (encodes : List.Forall₂ Encodes batches contents)
    (few : ∀ batch ∈ batches, batch.length < Bytes.bound countLength) :
    readAll (contents.flatMap ofPayloads) = some contents := by
  induction encodes with
  | nil =>
      rw [List.flatMap_nil, readAll]
      rfl
  | cons first _ ih =>
      obtain ⟨here, few⟩ := List.forall_mem_cons.mp few
      rw [← first.length_eq] at here
      rw [List.flatMap_cons, readAll_of_read? (read?_ofPayloads_append first.short here _), ih few]
      rfl

/-- As many payloads as records, each short enough for a frame. -/
theorem payloads_spec {records : List α} {written : List Bytes}
    (all : payloads records = .ok written) :
    written.length = records.length ∧ ∀ payload ∈ written, payload.length ≤ largestPayload :=
  have encodes := payloads_eq_ok_iff.mp all
  ⟨encodes.length_eq, encodes.short⟩

/-- The first record that cannot be written decides what is wrong with the batch. -/
theorem payloads_of_refused {front : List α} {written : List Bytes}
    (encodes : Encodes front written) {bad : α} {error : StorageError}
    (refuses : Record.Refuses bad error) (behind : List α) :
    payloads (front ++ bad :: behind) = .error error := by
  induction encodes with
  | nil =>
      rw [List.nil_append, payloads, List.mapM_cons, Record.payload_eq_error_iff.mpr refuses]
      rfl
  | cons first _ ih =>
      rw [payloads] at ih
      rw [List.cons_append, payloads, List.mapM_cons, Record.payload_eq_ok_iff.mpr first, ih]
      rfl

/-- A batch can be written, or it has a first record that cannot. -/
theorem encodes_or_refuses (records : List α) :
    (∃ written, Encodes records written) ∨
      ∃ front bad behind error, records = front ++ bad :: behind ∧
        (∃ written, Encodes front written) ∧ Record.Refuses bad error := by
  induction records with
  | nil => exact .inl ⟨[], .nil⟩
  | cons record others ih =>
      cases first : Record.payload record with
      | error error =>
          exact .inr ⟨[], record, others, error, rfl, ⟨[], .nil⟩,
            Record.payload_eq_error_iff.mp first⟩
      | ok payload =>
          have fits := Record.payload_eq_ok_iff.mp first
          rcases ih with
            ⟨written, encodes⟩ | ⟨front, bad, behind, error, rfl, ⟨written, encodes⟩, refuses⟩
          · exact .inl ⟨payload :: written, .cons fits encodes⟩
          · exact .inr ⟨record :: front, bad, behind, error, rfl,
              ⟨payload :: written, .cons fits encodes⟩, refuses⟩

/-- No record of a batch that can be written is refused. -/
theorem Encodes.not_refuses {records : List α} {written : List Bytes}
    (encodes : Encodes records written) :
    ∀ record ∈ records, ∀ error, ¬ Record.Refuses record error := by
  induction encodes with
  | nil => exact List.forall_mem_nil _
  | cons first _ ih =>
      refine List.forall_mem_cons.mpr ⟨fun error refuses => ?_, ih⟩
      cases (Record.payload_eq_ok_iff.mpr first).symm.trans
        (Record.payload_eq_error_iff.mpr refuses)

/-- Records that each have a short encoding make a batch. -/
theorem exists_encodes {records : List α}
    (fitting : ∀ record ∈ records, ∃ bytes,
      Record.encode record = .ok bytes ∧ bytes.length ≤ largestPayload) :
    ∃ written, Encodes records written := by
  induction records with
  | nil => exact ⟨[], .nil⟩
  | cons record others ih =>
      obtain ⟨⟨payload, first⟩, fitting⟩ := List.forall_mem_cons.mp fitting
      obtain ⟨written, encodes⟩ := ih fitting
      exact ⟨payload :: written, .cons first encodes⟩

/-- The bytes of a batch are those of the payloads of its records. -/
theorem encode_eq_ok {records : List α} {bytes : Bytes} (encoded : encode records = .ok bytes) :
    ∃ written, payloads records = .ok written ∧ bytes = ofPayloads written := by
  rw [encode] at encoded
  cases all : payloads records with
  | error error =>
      rw [all] at encoded
      cases encoded
  | ok written =>
      rw [all] at encoded
      cases encoded
      exact ⟨written, rfl, rfl⟩

theorem encode_of_encodes {records : List α} {written : List Bytes}
    (encodes : Encodes records written) : encode records = .ok (ofPayloads written) := by
  rw [encode, payloads_eq_ok_iff.mpr encodes]
  rfl

/-! ### Sending -/

/-- A batch that can be encoded is written behind what the stream holds, and answered by the next
answer. -/
theorem send_of_encodes {stream : Stream} {records : List α} {written : List Bytes}
    (encodes : Encodes records written) (whole : stream.broken = false) :
    send stream records = (verdict stream.incoming.head?,
      { stream with
        written := stream.written ++ ofPayloads written
        incoming := stream.incoming.tail }) := by
  rw [send, encode_of_encodes encodes]
  simp [whole]

/-- A record that cannot be encoded leaves the stream as it was, whatever comes behind it. -/
theorem send_of_refused {front : List α} {written : List Bytes}
    (encodes : Encodes front written) {bad : α} {error : StorageError}
    (refuses : Record.Refuses bad error) (behind : List α) (stream : Stream) :
    send stream (front ++ bad :: behind) = (.error (.storage error), stream) := by
  rw [send, encode, payloads_of_refused encodes refuses]
  rfl

end Batch

/-- Batches are sent one after another. -/
def Stream.sendAll {α : Type} [Record α] (stream : Stream) (batches : List (List α)) : Stream :=
  batches.foldl (fun stream records => (Batch.send stream records).2) stream

/-- Batches stand on the stream in the order in which they were sent. -/
theorem Stream.written_sendAll {α : Type} [Record α] {stream : Stream}
    (whole : stream.broken = false) {batches : List (List α)} {contents : List (List Bytes)}
    (encodes : List.Forall₂ Batch.Encodes batches contents) :
    (stream.sendAll batches).written = stream.written ++ contents.flatMap Batch.ofPayloads := by
  induction encodes generalizing stream with
  | nil => exact (List.append_nil _).symm
  | @cons records payloads _ _ first _ ih =>
      have sent := Batch.send_of_encodes first whole
      rw [sendAll, List.foldl_cons, sent, List.flatMap_cons, ← List.append_assoc]
      exact ih whole

/-- Records that can be encoded in 65535 octets each, fewer of them than four octets can count, are
written in such a way that the receiver reads just their encodings, whatever it finds behind them; and
conversely what it reads was written so.  Batches that are written one after another over one
connection come apart again into these batches.  A batch with a record that cannot be written is not
sent: the first such record says what is wrong, and the stream stays as it is, without a byte or an
acknowledgement less. -/
theorem batches_read_back {α : Type} [Record α] (stream : Stream) (records : List α)
    (batches : List (List α)) :
    (stream.broken = false → records.length < 4294967296 →
        (∀ record ∈ records, ∃ bytes,
          Record.encode record = .ok bytes ∧ bytes.length ≤ 65535) →
        ∃ payloads,
          List.Forall₂ (fun record payload => Record.encode record = .ok payload) records payloads ∧
          (Batch.send stream records).2.written = stream.written ++ Batch.wire payloads ∧
          ∀ later, Batch.read? (Batch.wire payloads ++ later) = some (payloads, later)) ∧
      (∀ bytes payloads rest, Batch.read? bytes = some (payloads, rest) →
        bytes = Batch.wire payloads ++ rest) ∧
      (stream.broken = false → stream.written = [] →
        (∀ batch ∈ batches, batch.length < 4294967296) →
        ∀ contents, List.Forall₂ Batch.Encodes batches contents →
          Batch.readAll (stream.sendAll batches).written = some contents) ∧
      ((∃ record ∈ records, ∃ error, Record.Refuses record error) →
        ∃ front bad behind error, records = front ++ bad :: behind ∧
          (∀ record ∈ front, ∀ error, ¬ Record.Refuses record error) ∧
          Record.Refuses bad error ∧
          Batch.send stream records = (.error (.storage error), stream)) := by
  refine ⟨?written, ?read, ?apart, ?refused⟩
  case written =>
    intro whole few fitting
    obtain ⟨payloads, encodes⟩ := Batch.exists_encodes fitting
    refine ⟨payloads, encodes.imp fun _ _ fits => fits.1, ?_, fun later => ?_⟩
    · rw [Batch.send_of_encodes encodes whole, Batch.ofPayloads_eq_wire]
    · apply Batch.read?_ofPayloads_append encodes.short
      rw [encodes.length_eq]
      exact few
  case read =>
    intro bytes payloads rest read
    exact (Batch.read?_eq_some_iff.mp read).2.2
  case apart =>
    intro whole empty few contents encodes
    rw [Stream.written_sendAll whole encodes, empty, List.nil_append]
    exact Batch.readAll_of_encodes encodes few
  case refused =>
    rintro ⟨record, member, error, refuses⟩
    rcases Batch.encodes_or_refuses records with
      ⟨written, encodes⟩ | ⟨front, bad, behind, first, rfl, ⟨written, encodes⟩, refused⟩
    · exact absurd refuses (encodes.not_refuses record member error)
    · exact ⟨front, bad, behind, first, rfl, encodes.not_refuses, refused,
        Batch.send_of_refused encodes refused behind stream⟩

/-- Batches of several lengths, one of them empty, and an empty record. -/
def sampleBatches : List (List Octets) :=
  [[⟨[1, 2]⟩, ⟨[]⟩], [], [⟨[3]⟩]]

/-- A batch whose second record is too long for a frame. -/
def sampleUnfit : List Octets :=
  [⟨[1]⟩, ⟨List.replicate 65536 0⟩, ⟨[2]⟩]

theorem batches_read_back_of_sampleBatches :
    (∃ payloads, (Batch.send ({} : Stream) [(⟨[1, 2]⟩ : Octets), ⟨[]⟩]).2.written =
        Batch.wire payloads) ∧
      Batch.readAll (({} : Stream).sendAll sampleBatches).written =
        some [[[1, 2], []], [], [[3]]] ∧
      ∃ error, Batch.send ({} : Stream) sampleUnfit = (.error (.storage error), {}) := by
  have small : ∀ bytes : Bytes, bytes.length ≤ 2 →
      Record.encode (⟨bytes⟩ : Octets) = .ok bytes ∧ bytes.length ≤ 65535 :=
    fun _ short => ⟨rfl, Nat.le_trans short (by decide)⟩
  refine ⟨?_, ?_, ?_⟩
  · obtain ⟨written, _⟩ := batches_read_back ({} : Stream) [(⟨[1, 2]⟩ : Octets), ⟨[]⟩] []
    have fits : ∀ record ∈ [(⟨[1, 2]⟩ : Octets), ⟨[]⟩], record.bytes.length ≤ 2 := by decide
    obtain ⟨payloads, _, bytes, _⟩ := written rfl (by decide)
      fun record member => ⟨record.bytes, small _ (fits record member)⟩
    exact ⟨payloads, bytes⟩
  · obtain ⟨_, _, apart, _⟩ := batches_read_back ({} : Stream) ([] : List Octets) sampleBatches
    apply apart rfl rfl (by decide)
    exact .cons (.cons (small _ (by decide)) (.cons (small _ (by decide)) .nil))
      (.cons .nil (.cons (.cons (small _ (by decide)) .nil) .nil))
  · obtain ⟨_, _, _, refused⟩ := batches_read_back ({} : Stream) sampleUnfit []
    have long : 65535 < (List.replicate 65536 (0 : UInt8)).length := by
      rw [List.length_replicate]
      decide
    obtain ⟨_, _, _, error, _, _, _, sent⟩ := refused
      ⟨⟨List.replicate 65536 0⟩, List.mem_cons_of_mem _ List.mem_cons_self, _, .tooLong rfl long⟩
    exact ⟨error, sent⟩

end TrafficMeter.Delivery
