/-
Module: TrafficMeter.Spool.Log
Purpose: A log of framed records on disk that is appended to at its end and read from an offset,
  which is kept in a file of its own.  What was read is dropped when the offset has grown past a
  threshold, by a compaction that writes a new file and renames it.
Main exports: Log, Log.create, Log.open, Log.close, Log.pending, Log.store, Log.Reading,
  Log.Reading.ofBytes, Log.Reading.ofPacked, Log.load, Log.compaction, Log.rewrite, Log.compact
-/
import TrafficMeter.Spool.Disk
import TrafficMeter.Spool.Frame

namespace TrafficMeter.Spool

/-- A log, with the directory that it lies in. -/
structure Log where
  disk : Disk
  /-- the offset up to which read bytes are kept -/
  threshold : Nat
  /-- the identity of the open file -/
  handle : Option Nat := none
  /-- the position from which records are read -/
  offset : Nat := 0
deriving Inhabited

namespace Log

variable {α : Type} [Record α]

/-- A log that is not open yet. -/
def create (disk : Disk) (threshold : Nat) : Log :=
  { disk, threshold }

def isOpen (log : Log) : Bool :=
  log.handle.isSome

/-- The content of the open file, packed. -/
def file (log : Log) : ByteArray :=
  match log.handle with
  | some identity => log.disk.file identity
  | none => .empty

def content (log : Log) : Bytes :=
  Bytes.ofPacked log.file

/-- The bytes of the open file that were not read yet. -/
def unread (log : Log) : Bytes :=
  log.content.drop log.offset

def setContent (log : Log) (bytes : Bytes) : Log :=
  match log.handle with
  | some identity => { log with disk := log.disk.setContent identity bytes }
  | none => log

def append (log : Log) (bytes : Bytes) : Log :=
  match log.handle with
  | some identity => { log with disk := log.disk.append identity bytes }
  | none => log

/-- Move the offset, in the offset file too unless that cannot be written. -/
def moveTo (log : Log) (offset : Nat) : Log :=
  { log with offset, disk := log.disk.writeOffset offset }

/-- Open the log, creating it if there is none.  The stored offset counts unless it lies past the
end of the file, and a last frame that is not complete is cut off.  To find it the header of every
frame from the offset on is read, which fails where nothing can be read back. -/
def «open» (log : Log) : Except StorageError Log :=
  if log.isOpen then .ok log
  else
    match log.disk.openLog? with
    | none => .error (.io "the log cannot be opened")
    | some (identity, disk) =>
        let bytes := disk.content identity
        let stored := disk.storedOffset
        let offset := if bytes.length < stored then 0 else stored
        if disk.refusesReads ∧ Frame.headerLength ≤ bytes.length - offset then
          .error (.io "the log cannot be read")
        else
          let whole := Frame.completeEnd bytes.length offset (bytes.drop offset)
          let disk :=
            if whole < bytes.length then disk.setContent identity (bytes.take whole) else disk
          .ok { log with disk, handle := some identity, offset }

def close (log : Log) : Log :=
  { log with handle := none }

/-- The number of bytes not read yet. -/
def pending (log : Log) : Except StorageError Nat :=
  if log.isOpen then .ok (log.file.size - log.offset) else .error .notOpen

/-- Append the records that fit in a frame.  An append that cannot be completed leaves the log as
it was. -/
def store (log : Log) (records : List α) : Except StorageError Log :=
  if records.isEmpty then .ok log
  else if !log.isOpen then .error .notOpen
  else if log.disk.refusesAppends then .error (.io "the log takes no further bytes")
  else .ok (log.append (Frame.ofRecords records))

/-- The steps of a compaction, in order: the new content, records in front of and behind what was
not read, goes to the temporary file, which takes over the name of the log; then the offset is
set back. -/
def compaction (log : Log) (before after : List α) : List Disk.Effect :=
  [.writeTemporary (Frame.ofRecords before ++ log.unread ++ Frame.ofRecords after),
    .renameTemporary, .writeOffset 0]

/-- Write the log anew: `before`, what was not read, and `after`; it is then read from its
beginning.  A rewrite that fails leaves the log, its offset and the offset file as they were.  If it
was the rename that failed, the temporary file stays behind, for the next rewrite to write over. -/
def rewrite (log : Log) (before after : List α) : Except StorageError Unit × Log :=
  if !log.isOpen then (.error .notOpen, log)
  else if log.disk.refusesReads then (.error (.io "the log cannot be read"), log)
  else
    match log.disk.applyAll (log.compaction before after) with
    | (.error reason, disk) => (.error (.io reason), { log with disk })
    | (.ok _, disk) =>
        match disk.openLog? with
        | none =>
            (.error (.io "the log cannot be opened"), { log with disk, handle := none, offset := 0 })
        | some (identity, disk) => (.ok (), { log with disk, handle := some identity, offset := 0 })

/-- Write the log anew, for a caller that keeps the log it had if this fails. -/
def compact (log : Log) (before after : List α) : Except StorageError Log :=
  match log.rewrite before after with
  | (.ok _, written) => .ok written
  | (.error error, _) => .error error

structure Reading (α : Type) where
  records : List α
  /-- how many bytes the records took -/
  consumed : Nat
  /-- a frame was met that holds no record -/
  corrupted : Bool
deriving Repr

/-- Read at most `limit` records, until no complete frame is left or one holds no record. -/
def Reading.ofBytes : Nat → Bytes → Reading α
  | 0, _ => ⟨[], 0, false⟩
  | limit + 1, bytes =>
      match Frame.next? bytes with
      | none => ⟨[], 0, false⟩
      | some (payload, rest) =>
          match Record.decode payload with
          | .error _ => ⟨[], 0, true⟩
          | .ok record =>
              let more := ofBytes limit rest
              { more with
                records := record :: more.records
                consumed := Frame.headerLength + payload.length + more.consumed }

/-- Read at most `limit` records of a packed byte string from a position on. -/
def Reading.ofPacked (packed : ByteArray) : Nat → Nat → Reading α
  | 0, _ => ⟨[], 0, false⟩
  | limit + 1, position =>
      match Frame.payloadAt? packed position with
      | none => ⟨[], 0, false⟩
      | some payload =>
          match Record.decode payload with
          | .error _ => ⟨[], 0, true⟩
          | .ok record =>
              let more := ofPacked packed limit (position + Frame.headerLength + payload.length)
              { more with
                records := record :: more.records
                consumed := Frame.headerLength + payload.length + more.consumed }

/-- To read from a position is to read what stands from there on. -/
theorem Reading.ofPacked_eq (packed : ByteArray) (limit position : Nat) :
    (ofPacked packed limit position : Reading α) =
      ofBytes limit ((Bytes.ofPacked packed).drop position) := by
  induction limit generalizing position with
  | zero => rfl
  | succ limit ih =>
    rw [ofPacked, ofBytes, Frame.payloadAt?_eq]
    cases found : Frame.next? ((Bytes.ofPacked packed).drop position) with
    | none => rfl
    | some read =>
      obtain ⟨payload, rest⟩ := read
      have behind := Frame.eq_drop_of_next? found
      rw [List.drop_drop] at behind
      simp only [Option.map_some, behind, ih, Nat.add_assoc]

/-- Drop what was read if there is too much of it; if that fails, it is left for later. -/
def compactIfGrown (α : Type) [Record α] (log : Log) : Log :=
  if log.threshold < log.offset then (log.rewrite ([] : List α) []).2 else log

/-- Read at most `limit` records from the offset on and move it behind them.  A frame that holds
no record empties the log; the records in front of it are still returned.  Where nothing can be
read back, nothing changes. -/
def load (log : Log) (limit : Nat) : Except StorageError (List α × Log) :=
  if limit = 0 then .ok ([], log)
  else if !log.isOpen then .error .notOpen
  else if log.disk.refusesReads then .error (.io "the log cannot be read")
  else
    let reading : Reading α := .ofPacked log.file limit log.offset
    if reading.corrupted then .ok (reading.records, (log.setContent []).moveTo 0)
    else
      let moved := if reading.consumed = 0 then log else log.moveTo (log.offset + reading.consumed)
      .ok (reading.records, compactIfGrown α moved)

end Log

end TrafficMeter.Spool
