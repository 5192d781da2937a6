/-
Module: TrafficMeter.Delivery.Client
Purpose: What a client answers to one delivery attempt, and clients whose answers are laid down
  beforehand.
Main exports: DeliveryError, DeliveryError.isPermanent, Answer, Client, Client.ask
-/
import TrafficMeter.Spool.Record

namespace TrafficMeter.Delivery

open Spool

/-- Why a delivery failed. -/
inductive DeliveryError where
  | sendFailed (reason : String)
  | connectionFailed (reason : String)
  | rejected (code : UInt8)
  | timeout
  | storage (error : StorageError)
deriving DecidableEq, Repr

def DeliveryError.message : DeliveryError → String
  | .sendFailed reason => s!"Report send failed: {reason}"
  | .connectionFailed reason => s!"Collector connection failed: {reason}"
  | .rejected code => s!"Collector rejected batch (code {code.toNat})"
  | .timeout => "Collector timed out"
  | .storage error => s!"Report storage error: {error.message}"

/-- A failure that no repetition can mend: the record itself cannot be written. -/
def DeliveryError.isPermanent : DeliveryError → Bool
  | .storage (.encodeFailed _) => true
  | .storage (.frameTooLarge _) => true
  | _ => false

/-- How one attempt to deliver a record ends. -/
inductive Answer where
  | accepted
  | failed (error : DeliveryError)
  /-- the client breaks down in the middle of the attempt -/
  | breakdown
  /-- no answer ever comes -/
  | silence
deriving DecidableEq, Repr

/-- A client with the answers that it is going to give, and the records that it accepted. -/
structure Client (α : Type) where
  /-- the next answers -/
  script : List Answer := []
  /-- the answer to every attempt after those -/
  afterwards : Answer := .accepted
  /-- the number of attempts made -/
  attempts : Nat := 0
  /-- the accepted records, in order -/
  accepted : Array α := #[]
deriving Repr, Inhabited

/-- Attempt to deliver a record. -/
def Client.ask {α : Type} (client : Client α) (record : α) : Answer × Client α :=
  let answer := client.script.head?.getD client.afterwards
  (answer, { client with
    script := client.script.tail
    attempts := client.attempts + 1
    accepted := if answer = .accepted then client.accepted.push record else client.accepted })

end TrafficMeter.Delivery
