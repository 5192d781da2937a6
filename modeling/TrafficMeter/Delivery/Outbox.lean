/-
Module: TrafficMeter.Delivery.Outbox
Purpose: Hold records until a client has taken them, oldest first.  A record waits in one of three
  places: the ring, from which records are delivered; the log on disk; and the overflow list,
  which holds the newest records until there are enough of them to be written to the log.

      add ──▶ overflow ──▶ log ──▶ ring ──▶ client
        └──────────────────────────▲

  While nothing waits in the log or the overflow list, a new record goes straight to the ring.
Main exports: DeliverySettings, Courier, Outbox, Outbox.create, Outbox.start, Outbox.add,
  Outbox.backfill, Outbox.settle, Outbox.turn, Outbox.deliver, Outbox.stop
-/
import TrafficMeter.Delivery.Client
import TrafficMeter.Spool.Log
import TrafficMeter.Spool.RingBuffer

namespace TrafficMeter.Delivery

open Spool

/-- How reports are made and delivered. -/
structure DeliverySettings where
  queueCapacity : Nat := 500
  reportIntervalSecs : UInt64 := 10
  retryBackoffSecs : UInt64 := 2
  pollIntervalSecs : UInt64 := 3
  spoolPath : String := "/var/lib/bandwidth-reporter/report.log"
  compactThresholdBytes : UInt64 := 1048576
deriving DecidableEq, Repr, Inhabited

/-- What the loop that delivers records is doing. -/
inductive Courier where
  /-- there is no such loop -/
  | absent
  /-- it goes on at this moment -/
  | due (moment : Nat)
  /-- it waits for an answer that does not come -/
  | waiting
deriving DecidableEq, Repr, Inhabited

/-- Records on their way to a client. -/
structure Outbox (α : Type) where
  ring : RingBuffer α
  /-- the newest records, oldest first -/
  overflow : Array α := #[]
  log : Log
  /-- nothing waits in the log or the overflow list -/
  queueOnly : Bool := false
  running : Bool := false
  /-- a stop was asked for, which holds for good -/
  cancelled : Bool := false
  courier : Courier := .absent
  /-- milliseconds to wait after a failed attempt -/
  backoff : Nat
  /-- milliseconds to wait when there was nothing to deliver -/
  poll : Nat
deriving Inhabited

namespace Outbox

variable {α : Type} [Record α]

/-- An outbox over the log in a directory, not started yet. -/
def create (disk : Disk) (settings : DeliverySettings) : Outbox α where
  ring := .empty settings.queueCapacity
  log := .create disk settings.compactThresholdBytes.toNat
  backoff := settings.retryBackoffSecs.toNat * 1000
  poll := settings.pollIntervalSecs.toNat * 1000

def onDisk (outbox : Outbox α) (disk : Disk) : Outbox α :=
  { outbox with log := { outbox.log with disk } }

/-! ### Taking records in -/

/-- Put a record behind the overflow list.  When the list is as long as the ring and the log is
open, it is written there; if that fails, it is kept. -/
def setAside (outbox : Outbox α) (record : α) : Outbox α :=
  let grown := { outbox with overflow := outbox.overflow.push record }
  if grown.overflow.size < grown.ring.capacity || !grown.log.isOpen then grown
  else
    match grown.log.store grown.overflow.toList with
    | .ok log => { grown with log, overflow := #[] }
    | .error _ => grown

/-- Take in a record: straight to the ring if nothing waits behind the ring, or if `force` says
that this record is the oldest that waits, and if there is room; else to the overflow list. -/
def takeIn (outbox : Outbox α) (record : α) (force : Bool) : Outbox α :=
  if (outbox.queueOnly || force) && !outbox.ring.isFull then
    { outbox with ring := outbox.ring.push record }
  else { outbox.setAside record with queueOnly := false }

/-- Take in a new record, unless it can never be delivered because it does not fit in a frame. -/
def add (outbox : Outbox α) (record : α) (force : Bool := false) : Outbox α :=
  if Record.fits record then outbox.takeIn record force else outbox

/-- Take in records that come back from the log. -/
def replay (outbox : Outbox α) (records : List α) : Outbox α :=
  records.foldl (fun outbox record => outbox.takeIn record true) outbox

/-- Whether the log is open and every byte of it was read. -/
def logIsDrained (outbox : Outbox α) : Bool :=
  match outbox.log.pending with
  | .ok 0 => true
  | _ => false

/-- Move records from the front of a list to free slots of the ring. -/
def refill (ring : RingBuffer α) : List α → RingBuffer α × List α
  | [] => (ring, [])
  | record :: others =>
      if ring.isFull then (ring, record :: others) else refill (ring.push record) others

/-- Fill free slots of the ring, from the log first, and from the overflow list once the log was
read to its end. -/
def backfill (outbox : Outbox α) : Outbox α :=
  if outbox.ring.free = 0 then outbox
  else
    match outbox.log.load (α := α) outbox.ring.free with
    | .error _ => outbox
    | .ok (records, log) =>
        let replayed := { outbox with log }.replay records
        if !replayed.logIsDrained then replayed
        else
          let (ring, left) := refill replayed.ring replayed.overflow.toList
          { replayed with
            ring
            overflow := left.toArray
            queueOnly := left.isEmpty || replayed.queueOnly }

/-! ### Starting -/

/-- Open the log, replay as many of its records as there is room for, and start the delivery loop
at the given moment.  After a stop the loop ends at once. -/
def start (outbox : Outbox α) (moment : Nat) : Except StorageError (Outbox α) :=
  if outbox.running then .ok outbox
  else
    match outbox.log.open with
    | .error error => .error error
    | .ok opened =>
        let replayed :=
          match opened.load (α := α) outbox.ring.free with
          | .ok (records, log) => { outbox with log, running := true }.replay records
          | .error _ => { outbox with log := opened, running := true }
        let drained := replayed.logIsDrained && decide (0 < replayed.ring.free)
        .ok { replayed with
          queueOnly := drained || replayed.queueOnly
          courier := if replayed.cancelled then .absent else .due moment }

/-! ### Delivering -/

/-- What the delivery loop does after a turn. -/
inductive Next where
  /-- another turn without any time passing -/
  | again
  /-- a pause of so many milliseconds -/
  | pause (milliseconds : Nat)
  /-- wait for an answer -/
  | wait
deriving DecidableEq, Repr

/-- Deal with the answer to an attempt to deliver the oldest record.  A record that was accepted,
or that no repetition can deliver, leaves the ring; after any other failure it is tried again. -/
def settle (outbox : Outbox α) : Answer → Outbox α × Next
  | .accepted => ({ outbox with ring := outbox.ring.dropHead }, .again)
  | .failed error =>
      if error.isPermanent then ({ outbox with ring := outbox.ring.dropHead }, .again)
      else (outbox, .pause outbox.backoff)
  | .breakdown => (outbox, .again)
  | .silence => (outbox, .wait)

/-- One turn of the delivery loop: attempt to deliver the oldest record, or fill the ring when it
is empty. -/
def turn (outbox : Outbox α) (client : Client α) : Outbox α × Client α × Next :=
  match outbox.ring.peek? with
  | none => (outbox.backfill, client, .pause outbox.poll)
  | some record =>
      let (answer, client) := client.ask record
      let (outbox, next) := outbox.settle answer
      (outbox, client, next)

/-- Take turns until the loop pauses or waits, but not more than `limit` turns.  A pause of no time
is none. -/
def turns (moment : Nat) : Nat → Outbox α → Client α → Outbox α × Client α
  | 0, outbox, client => (outbox, client)
  | limit + 1, outbox, client =>
      let (outbox, client, next) := outbox.turn client
      match next with
      | .again | .pause 0 => turns moment limit outbox client
      | .pause milliseconds => ({ outbox with courier := .due (moment + milliseconds) }, client)
      | .wait => ({ outbox with courier := .waiting }, client)

/-- Let the delivery loop go on at a moment.  Every turn without a pause uses up an answer laid
down beforehand or a record in the ring, which bounds their number for a client that does not
fail every time and at once. -/
def deliver (outbox : Outbox α) (client : Client α) (moment : Nat) : Outbox α × Client α :=
  turns moment (client.script.length + outbox.ring.size + 1) outbox client

/-! ### Stopping -/

def cancel (outbox : Outbox α) : Outbox α :=
  { outbox with running := false, cancelled := true, courier := .absent }

/-- Write everything that waits to the log: the ring in front of what was not read, the overflow
list behind it; then close the log. -/
def persist (outbox : Outbox α) : Except StorageError Unit × Outbox α :=
  let (queued, ring) := outbox.ring.drain
  let (result, log) := outbox.log.rewrite queued outbox.overflow.toList
  let emptied := { outbox with ring, overflow := #[], log }
  match result with
  | .ok _ => (.ok (), { emptied with log := log.close })
  | .error error => (.error error, emptied)

/-- Stop delivering and write everything that waits to the log. -/
def stop (outbox : Outbox α) : Except StorageError Unit × Outbox α :=
  if outbox.running then outbox.cancel.persist else (.ok (), outbox)

end Outbox

end TrafficMeter.Delivery
