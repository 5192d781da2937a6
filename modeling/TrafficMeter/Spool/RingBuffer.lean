/-
Module: TrafficMeter.Spool.RingBuffer
Purpose: A queue of bounded length in a circle of slots.  The oldest item sits at the head, the
  others follow it around the circle, and the tail is the slot for the next one.
Main exports: RingBuffer, RingBuffer.empty, RingBuffer.push, RingBuffer.offer,
  RingBuffer.enqueue, RingBuffer.dequeue, RingBuffer.peek?, RingBuffer.drain, RingBuffer.toList
-/

namespace TrafficMeter.Spool

/-- A circle of slots, `size` of them taken from `head` on. -/
structure RingBuffer (α : Type) where
  slots : Array (Option α)
  head : Nat := 0
  tail : Nat := 0
  size : Nat := 0
deriving Repr

namespace RingBuffer

variable {α : Type}

/-- An empty ring; it has at least one slot. -/
def empty (capacity : Nat) : RingBuffer α :=
  { slots := Array.replicate (max capacity 1) none }

instance : Inhabited (RingBuffer α) := ⟨empty 1⟩

def capacity (ring : RingBuffer α) : Nat :=
  ring.slots.size

def free (ring : RingBuffer α) : Nat :=
  ring.capacity - ring.size

def isEmpty (ring : RingBuffer α) : Bool :=
  ring.size == 0

def next (ring : RingBuffer α) (slot : Nat) : Nat :=
  (slot + 1) % ring.capacity

def item? (ring : RingBuffer α) (slot : Nat) : Option α :=
  ring.slots[slot]?.join

def isFull (ring : RingBuffer α) : Bool :=
  ring.size == ring.capacity

/-- Put an item behind the others, into a slot that is free. -/
def push (ring : RingBuffer α) (item : α) : RingBuffer α :=
  let tail := ring.next ring.tail
  { ring with
    slots := ring.slots.setIfInBounds ring.tail (some item)
    tail
    size := ring.size + 1 }

/-- Put an item behind the others; a full ring hands it back. -/
def offer (ring : RingBuffer α) (item : α) : Except α (RingBuffer α) :=
  if ring.isFull then .error item else .ok (ring.push item)

/-- The ring with an item behind the others; a full ring takes none. -/
def enqueue (ring : RingBuffer α) (item : α) : Option (RingBuffer α) :=
  (ring.offer item).toOption

/-- The oldest item. -/
def peek? (ring : RingBuffer α) : Option α :=
  if ring.size = 0 then none else ring.item? ring.head

/-- The ring without its oldest item. -/
def dropHead (ring : RingBuffer α) : RingBuffer α :=
  if ring.size = 0 then ring
  else
    let head := ring.next ring.head
    { ring with
      slots := ring.slots.setIfInBounds ring.head none
      head
      size := ring.size - 1 }

/-- The oldest item and the ring without it. -/
def dequeue (ring : RingBuffer α) : Option α × RingBuffer α :=
  (ring.peek?, ring.dropHead)

/-- The items in the next `count` slots from `slot` on. -/
def itemsFrom (ring : RingBuffer α) (slot : Nat) : Nat → List α
  | 0 => []
  | count + 1 => (ring.item? slot).toList ++ ring.itemsFrom (ring.next slot) count

/-- The items, oldest first. -/
def toList (ring : RingBuffer α) : List α :=
  ring.itemsFrom ring.head ring.size

/-- Take items out at the head until `count` more of them were taken; `taken` are those that were
taken before, the newest first. -/
def drainLoop (ring : RingBuffer α) (taken : List α) : Nat → List α × RingBuffer α
  | 0 => (taken.reverse, { ring with head := 0, tail := 0 })
  | count + 1 =>
      let (item, rest) := ring.dequeue
      rest.drainLoop (item.toList ++ taken) count

/-- All items, oldest first, and the emptied ring. -/
def drain (ring : RingBuffer α) : List α × RingBuffer α :=
  ring.drainLoop [] ring.size

end RingBuffer

end TrafficMeter.Spool
