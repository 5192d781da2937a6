/-
Module: TrafficMeter.Proofs.RingRefinement
Purpose: A ring is a list of bounded length.  Whatever is asked of it, in any order and over any number
  of turns around the circle, it answers as a list does that takes items at the back while there is
  room for them and gives them away at the front; and its taken slots are those of the items.
Main exports: RingBuffer.Call, RingBuffer.call, BoundedList, BoundedList.call, RingBuffer.Represents,
  RingBuffer.Represents.call, ring_refines_bounded_list
-/
import TrafficMeter.Proofs.RingContents

namespace TrafficMeter.Spool

variable {α : Type}

/-! ### Calls -/

/-- What can be asked of a ring. -/
inductive RingBuffer.Call (α : Type) where
  | offer (item : α)
  | dequeue
  | peek
  | drain
  | length
  | room
deriving Repr

/-- The answer to a call. -/
inductive RingBuffer.Reply (α : Type) where
  | accepted
  /-- the item that was offered comes back -/
  | refused (item : α)
  /-- the oldest item, if there is one -/
  | oldest (item : Option α)
  | all (items : List α)
  | number (count : Nat)
deriving DecidableEq, Repr

def RingBuffer.call (ring : RingBuffer α) : Call α → Reply α × RingBuffer α
  | .offer item =>
      match ring.offer item with
      | .ok next => (.accepted, next)
      | .error back => (.refused back, ring)
  | .dequeue => (.oldest ring.dequeue.1, ring.dequeue.2)
  | .peek => (.oldest ring.peek?, ring)
  | .drain => (.all ring.drain.1, ring.drain.2)
  | .length => (.number ring.size, ring)
  | .room => (.number ring.free, ring)

def RingBuffer.after (ring : RingBuffer α) (calls : List (Call α)) : RingBuffer α :=
  calls.foldl (fun ring call => (ring.call call).2) ring

def RingBuffer.replies (ring : RingBuffer α) : List (Call α) → List (Reply α)
  | [] => []
  | call :: later => (ring.call call).1 :: (ring.call call).2.replies later

/-! ### The list -/

/-- A list of at most `capacity` items, the oldest first. -/
structure BoundedList (α : Type) (capacity : Nat) where
  items : List α
  bounded : items.length ≤ capacity

namespace BoundedList

variable {capacity : Nat}

def empty (capacity : Nat) : BoundedList α capacity :=
  ⟨[], Nat.zero_le _⟩

def append (list : BoundedList α capacity) (item : α) (room : list.items.length < capacity) :
    BoundedList α capacity :=
  ⟨list.items ++ [item], by rw [List.length_append]; exact room⟩

def tail (list : BoundedList α capacity) : BoundedList α capacity :=
  ⟨list.items.tail, Nat.le_trans (List.tail_sublist _).length_le list.bounded⟩

def call (list : BoundedList α capacity) :
    RingBuffer.Call α → RingBuffer.Reply α × BoundedList α capacity
  | .offer item =>
      if room : list.items.length < capacity then (.accepted, list.append item room)
      else (.refused item, list)
  | .dequeue => (.oldest list.items.head?, list.tail)
  | .peek => (.oldest list.items.head?, list)
  | .drain => (.all list.items, empty capacity)
  | .length => (.number list.items.length, list)
  | .room => (.number (capacity - list.items.length), list)

def after (list : BoundedList α capacity) (calls : List (RingBuffer.Call α)) :
    BoundedList α capacity :=
  calls.foldl (fun list call => (list.call call).2) list

def replies (list : BoundedList α capacity) : List (RingBuffer.Call α) → List (RingBuffer.Reply α)
  | [] => []
  | call :: later => (list.call call).1 :: (list.call call).2.replies later

end BoundedList

/-! ### The ring stands for the list -/

namespace RingBuffer

/-- A ring of the same capacity whose slots hold the items of the list. -/
structure Represents {capacity : Nat} (ring : RingBuffer α) (list : BoundedList α capacity) :
    Prop where
  valid : ring.Valid
  capacity_eq : ring.capacity = capacity
  items_eq : ring.toList = list.items

namespace Represents

variable {capacity : Nat} {ring : RingBuffer α} {list : BoundedList α capacity}

/-- A fresh ring stands for a list with nothing in it, which has room for one item at least. -/
theorem empty (capacity : Nat) :
    Represents (RingBuffer.empty capacity : RingBuffer α) (.empty (max capacity 1)) where
  valid := valid_empty capacity
  capacity_eq := capacity_empty capacity
  items_eq := toList_eq_nil rfl

theorem size_eq (represents : Represents ring list) : ring.size = list.items.length := by
  rw [← represents.items_eq, represents.valid.length_toList]

theorem free_eq (represents : Represents ring list) :
    ring.free = capacity - list.items.length := by
  rw [free, represents.capacity_eq, represents.size_eq]

/-- There is room in the ring exactly if there is room in the list. -/
theorem isFull_eq_false_iff (represents : Represents ring list) :
    ring.isFull = false ↔ list.items.length < capacity := by
  have bounded := list.bounded
  rw [isFull, beq_eq_false_iff_ne, represents.size_eq, represents.capacity_eq]
  omega

/-- Filling the slot behind the last item is appending. -/
theorem append (represents : Represents ring list) (item : α)
    (room : list.items.length < capacity) :
    Represents (ring.push item) (list.append item room) where
  valid := represents.valid.push (represents.isFull_eq_false_iff.mpr room) item
  capacity_eq := (capacity_push ring item).trans represents.capacity_eq
  items_eq := by
    rw [toList_push represents.valid (represents.isFull_eq_false_iff.mpr room),
      represents.items_eq]
    rfl

/-- Emptying the slot of the first item is taking it off the list. -/
theorem tail (represents : Represents ring list) : Represents ring.dropHead list.tail where
  valid := represents.valid.dropHead
  capacity_eq := (capacity_dropHead ring).trans represents.capacity_eq
  items_eq := by
    rw [toList_dropHead represents.valid, represents.items_eq]
    rfl

theorem peek?_eq (represents : Represents ring list) : ring.peek? = list.items.head? := by
  rw [RingBuffer.peek?_eq represents.valid, represents.items_eq]

/-- Ring and list give the same answer to a call, and the ring goes on standing for the list. -/
theorem call (represents : Represents ring list) (call : Call α) :
    (ring.call call).1 = (list.call call).1 ∧
      Represents (ring.call call).2 (list.call call).2 := by
  cases call with
  | offer item =>
      rw [RingBuffer.call, BoundedList.call, offer]
      by_cases room : list.items.length < capacity
      · rw [dif_pos room, represents.isFull_eq_false_iff.mpr room]
        exact ⟨rfl, represents.append item room⟩
      · have full : ring.isFull = true :=
          eq_true_of_ne_false (mt represents.isFull_eq_false_iff.mp room)
        rw [dif_neg room, full]
        exact ⟨rfl, represents⟩
  | dequeue => exact ⟨congrArg Reply.oldest represents.peek?_eq, represents.tail⟩
  | peek => exact ⟨congrArg Reply.oldest represents.peek?_eq, represents⟩
  | drain =>
      obtain ⟨items, emptied, capacity_eq, valid⟩ := drain_eq represents.valid
      exact ⟨congrArg Reply.all (items.trans represents.items_eq),
        ⟨valid, capacity_eq.trans represents.capacity_eq, emptied⟩⟩
  | length => exact ⟨congrArg Reply.number represents.size_eq, represents⟩
  | room => exact ⟨congrArg Reply.number represents.free_eq, represents⟩

/-- Ring and list answer alike all the way. -/
theorem run (represents : Represents ring list) (calls : List (Call α)) :
    ring.replies calls = list.replies calls ∧ Represents (ring.after calls) (list.after calls) := by
  induction calls generalizing ring list with
  | nil => exact ⟨rfl, represents⟩
  | cons call later ih =>
      obtain ⟨reply, next⟩ := represents.call call
      obtain ⟨replies, last⟩ := ih next
      refine ⟨?_, last⟩
      rw [RingBuffer.replies, BoundedList.replies, reply, replies]

end Represents

end RingBuffer

/-- A ring answers any calls as a list of bounded length does.  At any time it has as many slots as
at first, namely its capacity, at least one; the items lie in the first `size` slots from the head on,
around the circle, the oldest first; and every other slot is vacant. -/
theorem ring_refines_bounded_list (capacity : Nat) (calls : List (RingBuffer.Call α)) :
    let ring := (RingBuffer.empty capacity : RingBuffer α).after calls
    let list := (BoundedList.empty (max capacity 1) : BoundedList α _).after calls
    (RingBuffer.empty capacity).replies calls =
        (BoundedList.empty (max capacity 1)).replies calls ∧
      ring.toList = list.items ∧ ring.size = list.items.length ∧
      ring.size + ring.free = max capacity 1 ∧ ring.slots.size = max capacity 1 ∧
      (∀ i, i < ring.size →
        ring.slots[(ring.head + i) % ring.slots.size]? = some list.items[i]?) ∧
      ∀ slot, slot < ring.slots.size →
        (∀ i, i < ring.size → (ring.head + i) % ring.slots.size ≠ slot) →
        ring.slots[slot]? = some none := by
  intro ring list
  obtain ⟨replies, represents⟩ := (RingBuffer.Represents.empty (α := α) capacity).run calls
  have valid : ring.Valid := represents.valid
  refine ⟨replies, represents.items_eq, represents.size_eq, ?_, represents.capacity_eq, ?_, ?_⟩
  · rw [RingBuffer.free, Nat.add_sub_cancel' valid.size_le]
    exact represents.capacity_eq
  · intro i taken
    rw [← represents.items_eq]
    exact valid.slot_place (Nat.lt_of_lt_of_le taken valid.size_le)
  · intro slot inside elsewhere
    obtain ⟨i, turn, rfl⟩ := valid.exists_place inside
    have behind : ring.toList.length ≤ i := by
      rw [valid.length_toList]
      exact Nat.le_of_not_lt fun taken => elsewhere i taken rfl
    rw [valid.slot_place turn, List.getElem?_eq_none behind]

/-- The ring is drained while its items lie across the end of the slots, and then goes on. -/
example :
    (RingBuffer.empty 2).replies [.offer 1, .offer 2, .offer 3, .dequeue, .offer 4, .drain, .offer 5,
        .peek, .length, .room] =
      [.accepted, .accepted, .refused 3, .oldest (some 1), .accepted, .all [2, 4], .accepted,
        .oldest (some 5), .number 1, .number 1] := by
  decide

end TrafficMeter.Spool
