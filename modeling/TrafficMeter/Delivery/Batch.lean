/-
Module: TrafficMeter.Delivery.Batch
Purpose: Batches of records on their way to a receiver, who acknowledges each with one octet.

      client ──▶ number of records, in four octets
             ──▶ for each record, its length in two octets and its payload
      client ◀── acknowledgement: zero accepts, anything else rejects

  Numbers are written least significant octet first.
Main exports: Batch.payloads, Batch.encode, Batch.read?, Batch.verdict, Stream, Batch.send
-/
import TrafficMeter.Delivery.Client
import TrafficMeter.Spool.Frame

namespace TrafficMeter.Delivery

open Spool

namespace Batch

variable {α : Type} [Record α]

/-- The number of octets that hold the number of records. -/
def countLength : Nat := 4

/-- The payloads of all records, or why the first record that has none has none. -/
def payloads (records : List α) : Except StorageError (List Bytes) :=
  records.mapM Record.payload

/-- Payloads as they are written. -/
def ofPayloads (payloads : List Bytes) : Bytes :=
  Bytes.littleEndian countLength payloads.length ++ payloads.flatMap Frame.ofPayload

/-- The bytes of a batch, unless one of its records cannot be written. -/
def encode (records : List α) : Except StorageError Bytes :=
  (payloads records).map ofPayloads

def readPayloads : Nat → Bytes → Option (List Bytes × Bytes)
  | 0, bytes => some ([], bytes)
  | count + 1, bytes => do
      let (payload, rest) ← Frame.next? bytes
      let (others, rest) ← readPayloads count rest
      return (payload :: others, rest)

/-- Read one batch, as the receiver does: its payloads, and what follows it. -/
def read? (bytes : Bytes) : Option (List Bytes × Bytes) :=
  if bytes.length < countLength then none
  else readPayloads (Bytes.ofLittleEndian (bytes.take countLength)) (bytes.drop countLength)

/-- What an acknowledgement says; without one the connection has failed. -/
def verdict : Option UInt8 → Except DeliveryError Unit
  | some 0 => .ok ()
  | some code => .error (.rejected code)
  | none => .error (.connectionFailed "the connection was closed without an acknowledgement")

end Batch

/-- A connection with the acknowledgements that come back over it. -/
structure Stream where
  /-- what was written -/
  written : Bytes := []
  /-- the octets that can be read before the stream ends -/
  incoming : List UInt8 := []
  /-- nothing can be written -/
  broken : Bool := false
deriving DecidableEq, Repr, Inhabited

/-- Write a batch and read its acknowledgement.  A batch with a record that cannot be written is
not sent at all. -/
def Batch.send {α : Type} [Record α] (stream : Stream) (records : List α) :
    Except DeliveryError Unit × Stream :=
  match Batch.encode records with
  | .error error => (.error (.storage error), stream)
  | .ok bytes =>
      if stream.broken then (.error (.connectionFailed "nothing can be written"), stream)
      else
        (Batch.verdict stream.incoming.head?,
          { stream with written := stream.written ++ bytes, incoming := stream.incoming.tail })

end TrafficMeter.Delivery
