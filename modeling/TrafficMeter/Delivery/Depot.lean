/-
Module: TrafficMeter.Delivery.Depot
Purpose: Outboxes that came one after another to the same directory and the same client, and the
  moments at which their delivery loops go on.
Main exports: Depot, Depot.create, Depot.renew, Depot.crash, Depot.start, Depot.add, Depot.stop,
  Depot.due?, Depot.wake
-/
import TrafficMeter.Delivery.Outbox

namespace TrafficMeter.Delivery

open Spool

/-- The outbox in use, the earlier ones whose loops go on, and what they share. -/
structure Depot (α : Type) where
  settings : DeliverySettings
  disk : Disk
  client : Client α
  outbox : Outbox α
  /-- the outboxes that were in use before, oldest first -/
  earlier : List (Outbox α) := []
deriving Inhabited

namespace Depot

variable {α : Type} [Record α]

def create (settings : DeliverySettings) (disk : Disk) (client : Client α) : Depot α where
  settings
  disk
  client
  outbox := .create disk settings

/-- Change the outbox in use, with the directory as it is now. -/
def modify (depot : Depot α) (f : Outbox α → Outbox α) : Depot α :=
  match depot with
  | { settings, disk, client, outbox, earlier } =>
      let outbox := f (outbox.onDisk disk)
      { settings, disk := outbox.log.disk, client, outbox, earlier }

def renew (depot : Depot α) : Depot α :=
  { depot with
    outbox := .create depot.disk depot.settings
    earlier := depot.earlier ++ [depot.outbox] }

/-- Lose everything but the directory, and put a fresh outbox into use. -/
def crash (depot : Depot α) : Depot α :=
  { depot with outbox := .create depot.disk depot.settings, earlier := [] }

def start (depot : Depot α) (moment : Nat) : Except StorageError (Depot α) := do
  let outbox ← (depot.outbox.onDisk depot.disk).start moment
  return { depot with outbox, disk := outbox.log.disk }

def add (depot : Depot α) (record : α) (force : Bool := false) : Depot α :=
  depot.modify fun outbox => outbox.add record force

/-- The moment at which the loop of an outbox goes on. -/
def dueOf? (outbox : Outbox α) : Option Nat :=
  match outbox.courier with
  | .due moment => some moment
  | _ => none

/-- Let the loop of an outbox go on if it is due. -/
def deliverIfDue (moment : Nat) (disk : Disk) (client : Client α) (outbox : Outbox α) :
    Outbox α × Disk × Client α :=
  if (dueOf? outbox).any (· ≤ moment) then
    let (outbox, client) := (outbox.onDisk disk).deliver client moment
    (outbox, outbox.log.disk, client)
  else (outbox, disk, client)

/-- Let the loops of several outboxes go on, one after another. -/
def deliverAll (moment : Nat) (disk : Disk) (client : Client α) :
    List (Outbox α) → List (Outbox α) × Disk × Client α
  | [] => ([], disk, client)
  | outbox :: others =>
      let (outbox, disk, client) := deliverIfDue moment disk client outbox
      let (others, disk, client) := deliverAll moment disk client others
      (outbox :: others, disk, client)

/-- Let every loop that is due go on. -/
def wake (depot : Depot α) (moment : Nat) : Depot α :=
  match depot with
  | { settings, disk, client, outbox, earlier } =>
      let (earlier, disk, client) := deliverAll moment disk client earlier
      let (outbox, disk, client) := deliverIfDue moment disk client outbox
      { settings, disk, client, outbox, earlier }

/-- The earliest moment at which a loop goes on. -/
def due? (depot : Depot α) : Option Nat :=
  ((depot.outbox :: depot.earlier).filterMap dueOf?).min?

def cancel (depot : Depot α) : Depot α :=
  { depot with outbox := depot.outbox.cancel }

/-- Write everything that waits in the outbox in use to its log. -/
def persist (depot : Depot α) : Except StorageError Unit × Depot α :=
  let (result, outbox) := (depot.outbox.onDisk depot.disk).persist
  (result, { depot with outbox, disk := outbox.log.disk })

/-- Stop the outbox in use.  While its loop ends, the other loops that are due go on. -/
def stop (depot : Depot α) (moment : Nat) : Except StorageError Unit × Depot α :=
  if depot.outbox.running then (depot.cancel.wake moment).persist else (.ok (), depot)

end Depot

end TrafficMeter.Delivery
