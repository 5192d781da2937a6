/-
Module: TrafficMeter.Spool.Record
Purpose: What a spool asks of the records that it keeps, and what can go wrong with keeping them.
Main exports: StorageError, Record, Record.payload
-/
import TrafficMeter.Bytes

namespace TrafficMeter.Spool

/-- What can go wrong with a spool. -/
inductive StorageError where
  | notOpen
  | io (reason : String)
  | encodeFailed (reason : String)
  | decodeFailed (reason : String)
  | frameTooLarge (length : Nat)
deriving DecidableEq, Repr

def StorageError.message : StorageError → String
  | .notOpen => "Storage is not open"
  | .io reason => s!"Storage IO error: {reason}"
  | .encodeFailed reason => s!"Record encoding failed: {reason}"
  | .decodeFailed reason => s!"Record decoding failed: {reason}"
  | .frameTooLarge length => s!"Encoded record of {length} bytes does not fit in a frame"

/-- A kind of record that can be written as bytes and read from them. -/
class Record (α : Type) where
  encode : α → Except StorageError Bytes
  decode : Bytes → Except StorageError α

/-- The length of the longest payload of a frame. -/
def largestPayload : Nat := 65535

/-- The bytes of a record, if they fit in one frame. -/
def Record.payload {α : Type} [Record α] (record : α) : Except StorageError Bytes := do
  let bytes ← Record.encode record
  if largestPayload < bytes.length then throw (.frameTooLarge bytes.length)
  return bytes

/-- Whether a record can be written in a frame. -/
def Record.fits {α : Type} [Record α] (record : α) : Bool :=
  (Record.payload record).toBool

end TrafficMeter.Spool
