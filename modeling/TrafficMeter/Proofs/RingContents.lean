/-
Module: TrafficMeter.Proofs.RingContents
Purpose: What the operations of a ring do to the list of its items.  The items sit in the first
  `size` slots from the head on, counted around the circle, and every other slot is vacant; every
  operation keeps this, and seen as a list a push appends and a drop takes the first item away.
Main exports: RingBuffer.place, RingBuffer.Valid, RingBuffer.toList_push, RingBuffer.toList_dropHead,
  RingBuffer.peek?_eq, RingBuffer.drain_eq
-/
import TrafficMeter.Spool.RingBuffer

namespace TrafficMeter.Spool.RingBuffer

variable {α : Type}

/-- The slot that lies `i` slots behind the head. -/
def place (ring : RingBuffer α) (i : Nat) : Nat :=
  (ring.head + i) % ring.capacity

/-- A ring whose taken slots are those of its items: `size` slots from the head on, and no other. -/
structure Valid (ring : RingBuffer α) : Prop where
  head_lt : ring.head < ring.capacity
  size_le : ring.size ≤ ring.capacity
  tail_eq : ring.tail = ring.place ring.size
  taken_iff : ∀ i < ring.capacity, (ring.item? (ring.place i)).isSome ↔ i < ring.size

/-! ### Places around the circle -/

theorem Valid.capacity_pos {ring : RingBuffer α} (valid : ring.Valid) : 0 < ring.capacity :=
  Nat.zero_lt_of_lt valid.head_lt

theorem place_lt {ring : RingBuffer α} (positive : 0 < ring.capacity) (i : Nat) :
    ring.place i < ring.capacity :=
  Nat.mod_lt _ positive

/-- The slot behind a place is the next place, around the end of the slots. -/
theorem next_place (ring : RingBuffer α) (i : Nat) :
    ring.next (ring.place i) = ring.place (i + 1) := by
  simp only [next, place, Nat.mod_add_mod, Nat.add_assoc]

theorem place_zero {ring : RingBuffer α} (inside : ring.head < ring.capacity) :
    ring.place 0 = ring.head :=
  Nat.mod_eq_of_lt inside

/-- Within one turn of the circle a place wraps around at most once. -/
theorem Valid.place_eq {ring : RingBuffer α} (valid : ring.Valid) {i : Nat}
    (inside : i < ring.capacity) :
    ring.place i =
      if ring.head + i < ring.capacity then ring.head + i else ring.head + i - ring.capacity := by
  have head := valid.head_lt
  rw [place]
  split
  · next before => exact Nat.mod_eq_of_lt before
  · next behind =>
      have below : ring.head + i - ring.capacity < ring.capacity := by omega
      rw [Nat.mod_eq_sub_mod (Nat.le_of_not_lt behind), Nat.mod_eq_of_lt below]

/-- Within one turn of the circle two places are two slots. -/
theorem Valid.place_injective {ring : RingBuffer α} (valid : ring.Valid) {i j : Nat}
    (hi : i < ring.capacity) (hj : j < ring.capacity) (same : ring.place i = ring.place j) :
    i = j := by
  rw [valid.place_eq hi, valid.place_eq hj] at same
  split at same <;> split at same <;> omega

/-- One turn of the circle leads through every slot. -/
theorem Valid.exists_place {ring : RingBuffer α} (valid : ring.Valid) {slot : Nat}
    (inside : slot < ring.capacity) : ∃ i < ring.capacity, ring.place i = slot := by
  have head := valid.head_lt
  refine ⟨(slot + (ring.capacity - ring.head)) % ring.capacity, Nat.mod_lt _ valid.capacity_pos, ?_⟩
  have turn : ring.head + (slot + (ring.capacity - ring.head)) = slot + ring.capacity := by omega
  rw [place, Nat.add_mod_mod, turn, Nat.add_mod_right, Nat.mod_eq_of_lt inside]

/-! ### Items read along the circle -/

/-- One more slot gives one more item behind those before. -/
theorem itemsFrom_place_succ (ring : RingBuffer α) (i count : Nat) :
    ring.itemsFrom (ring.place i) (count + 1) =
      ring.itemsFrom (ring.place i) count ++ (ring.item? (ring.place (i + count))).toList := by
  induction count generalizing i with
  | zero => simp [itemsFrom]
  | succ count ih =>
      have shifted : i + 1 + count = i + (count + 1) := by omega
      rw [itemsFrom, next_place, ih (i + 1), itemsFrom, next_place, List.append_assoc, shifted]

/-- What is walked over tells what is found, and no other slot does. -/
theorem itemsFrom_congr {ring other : RingBuffer α} (capacity : ring.capacity = other.capacity)
    (slot count : Nat)
    (agree : ∀ i < count, ring.item? ((slot + i) % ring.capacity) =
      other.item? ((slot + i) % ring.capacity))
    (inside : slot < ring.capacity) :
    ring.itemsFrom slot count = other.itemsFrom slot count := by
  induction count generalizing slot with
  | zero => rfl
  | succ count ih =>
      have here : ring.item? slot = other.item? slot := by
        simpa [Nat.mod_eq_of_lt inside] using agree 0 (Nat.succ_pos count)
      have further : ring.itemsFrom (ring.next slot) count =
          other.itemsFrom (ring.next slot) count := by
        apply ih
        · intro i hi
          have shifted := agree (i + 1) (Nat.succ_lt_succ hi)
          simpa only [next, Nat.mod_add_mod, Nat.add_assoc, Nat.add_comm 1 i] using shifted
        · exact Nat.mod_lt _ (Nat.zero_lt_of_lt inside)
      have successor : other.next slot = ring.next slot := by
        simp only [next, capacity]
      rw [itemsFrom, itemsFrom, here, further, successor]

/-- The items from the head on. -/
theorem toList_eq {ring : RingBuffer α} (valid : ring.Valid) :
    ring.toList = ring.itemsFrom (ring.place 0) ring.size := by
  rw [toList, place_zero valid.head_lt]

theorem toList_eq_nil {ring : RingBuffer α} (vacant : ring.size = 0) : ring.toList = [] := by
  rw [toList, vacant]
  rfl

/-- No occupied slot is empty. -/
theorem Valid.exists_item {ring : RingBuffer α} (valid : ring.Valid) {i : Nat}
    (inside : i < ring.size) : ∃ item, ring.item? (ring.place i) = some item :=
  Option.isSome_iff_exists.mp
    ((valid.taken_iff i (Nat.lt_of_lt_of_le inside valid.size_le)).mpr inside)

/-- So each of them gives an item. -/
theorem Valid.length_itemsFrom {ring : RingBuffer α} (valid : ring.Valid) {count : Nat}
    (inside : count ≤ ring.size) : (ring.itemsFrom (ring.place 0) count).length = count := by
  induction count with
  | zero => rfl
  | succ count ih =>
      obtain ⟨item, found⟩ := valid.exists_item (Nat.lt_of_succ_le inside)
      rw [itemsFrom_place_succ, Nat.zero_add, found, List.length_append,
        ih (Nat.le_of_succ_le inside)]
      rfl

/-- A ring holds as many items as it says. -/
theorem Valid.length_toList {ring : RingBuffer α} (valid : ring.Valid) :
    ring.toList.length = ring.size := by
  rw [toList_eq valid, valid.length_itemsFrom (Nat.le_refl _)]

/-- And at each place the item of its slot. -/
theorem Valid.getElem?_itemsFrom {ring : RingBuffer α} (valid : ring.Valid) {count : Nat}
    (inside : count ≤ ring.size) {i : Nat} (before : i < count) :
    (ring.itemsFrom (ring.place 0) count)[i]? = ring.item? (ring.place i) := by
  induction count with
  | zero => exact absurd before (Nat.not_lt_zero i)
  | succ count ih =>
      have length := valid.length_itemsFrom (Nat.le_of_succ_le inside)
      obtain ⟨item, found⟩ := valid.exists_item (Nat.lt_of_succ_le inside)
      rw [itemsFrom_place_succ, Nat.zero_add, found]
      rcases Nat.lt_or_eq_of_le (Nat.le_of_lt_succ before) with earlier | last
      · rw [List.getElem?_append_left (by rw [length]; exact earlier)]
        exact ih (Nat.le_of_succ_le inside) earlier
      · rw [last, List.getElem?_append_right (Nat.le_of_eq length), length, Nat.sub_self, found]
        rfl

/-- Along one turn of the circle lie the items, oldest first, and then vacant slots. -/
theorem Valid.slot_place {ring : RingBuffer α} (valid : ring.Valid) {i : Nat}
    (inside : i < ring.capacity) : ring.slots[ring.place i]? = some ring.toList[i]? := by
  have bound : ring.place i < ring.slots.size := place_lt valid.capacity_pos i
  have item : ring.slots[ring.place i]? = some (ring.item? (ring.place i)) := by
    rw [item?, Array.getElem?_eq_getElem bound]
    rfl
  rw [item]
  by_cases taken : i < ring.size
  · rw [toList_eq valid, valid.getElem?_itemsFrom (Nat.le_refl _) taken]
  · have vacant : ring.item? (ring.place i) = none :=
      Option.not_isSome_iff_eq_none.mp (mt (valid.taken_iff i inside).mp taken)
    rw [vacant, List.getElem?_eq_none (by rw [valid.length_toList]; exact Nat.le_of_not_lt taken)]

/-- Free slots are those that hold nothing. -/
theorem Valid.free_eq {ring : RingBuffer α} (valid : ring.Valid) :
    ring.free = ring.capacity - ring.toList.length := by
  rw [free, valid.length_toList]

theorem Valid.free_ne_zero {ring : RingBuffer α} (valid : ring.Valid) (spent : ring.toList = []) :
    ring.free ≠ 0 := by
  rw [valid.free_eq, spent]
  exact Nat.ne_of_gt valid.capacity_pos

/-- A ring is full when it holds as many items as it has slots. -/
theorem Valid.isFull_iff {ring : RingBuffer α} (valid : ring.Valid) :
    ring.isFull = true ↔ ring.toList.length = ring.capacity := by
  rw [isFull, beq_iff_eq, valid.length_toList]

theorem Valid.size_lt {ring : RingBuffer α} (valid : ring.Valid) (room : ring.isFull = false) :
    ring.size < ring.capacity := by
  rw [isFull, beq_eq_false_iff_ne] at room
  exact Nat.lt_of_le_of_ne valid.size_le room

/-! ### The empty ring -/

/-- A ring asked for without slots gets one. -/
@[simp] theorem capacity_empty (capacity : Nat) :
    (empty capacity : RingBuffer α).capacity = max capacity 1 := by
  simp [RingBuffer.capacity, empty]

/-- A fresh ring is in order. -/
theorem valid_empty (capacity : Nat) : (empty capacity : RingBuffer α).Valid where
  head_lt := by
    rw [capacity_empty]
    exact Nat.lt_of_lt_of_le Nat.one_pos (Nat.le_max_right _ _)
  size_le := Nat.zero_le _
  tail_eq := (Nat.zero_mod _).symm
  taken_iff := by
    intro i _
    have vacant : ∀ slot, (empty capacity : RingBuffer α).item? slot = none := by
      intro slot
      rw [item?, empty, Array.getElem?_replicate]
      split <;> rfl
    rw [vacant]
    exact iff_of_false Bool.false_ne_true (Nat.not_lt_zero i)

/-! ### Pushing -/

@[simp] theorem capacity_push (ring : RingBuffer α) (item : α) :
    (ring.push item).capacity = ring.capacity := by
  simp [RingBuffer.capacity, push]

@[simp] theorem place_push (ring : RingBuffer α) (item : α) (i : Nat) :
    (ring.push item).place i = ring.place i := by
  rw [place, place, capacity_push]
  rfl

/-- A push fills the slot at the tail and leaves the other slots alone. -/
theorem item?_push {ring : RingBuffer α} {item : α} {slot : Nat}
    (inside : slot < ring.capacity) :
    (ring.push item).item? slot = if slot = ring.tail then some item else ring.item? slot := by
  have bound : slot < ring.slots.size := inside
  rw [item?, push, Array.getElem?_setIfInBounds]
  by_cases here : ring.tail = slot
  · rw [if_pos here, if_pos here.symm, if_pos (here ▸ bound)]
    rfl
  · rw [if_neg here, if_neg (Ne.symm here), item?]

/-- A push into a free slot appends. -/
theorem toList_push {ring : RingBuffer α} (valid : ring.Valid) (room : ring.isFull = false)
    (item : α) : (ring.push item).toList = ring.toList ++ [item] := by
  have below := valid.size_lt room
  have kept : (ring.push item).itemsFrom (ring.place 0) ring.size =
      ring.itemsFrom (ring.place 0) ring.size := by
    apply itemsFrom_congr (capacity_push ring item)
    · intro i hi
      -- the slots read lie before the tail, so the push does not touch them
      have apart : ring.place i ≠ ring.tail := by
        intro same
        have := valid.place_injective (Nat.lt_trans hi below) below (same.trans valid.tail_eq)
        omega
      rw [capacity_push, place_zero valid.head_lt]
      exact (item?_push (place_lt valid.capacity_pos i)).trans (if_neg apart)
    · rw [capacity_push]
      exact place_lt valid.capacity_pos 0
  have last : (ring.push item).item? (ring.place ring.size) = some item := by
    rw [item?_push (place_lt valid.capacity_pos _), valid.tail_eq, if_pos rfl]
  have unrolled := itemsFrom_place_succ (ring.push item) 0 ring.size
  rw [place_push, Nat.zero_add, place_push, last, kept] at unrolled
  rw [toList_eq valid, ← Option.toList_some, ← unrolled, place_zero valid.head_lt]
  rfl

/-- Filling a free slot keeps a ring in order. -/
theorem Valid.push {ring : RingBuffer α} (valid : ring.Valid) (room : ring.isFull = false)
    (item : α) : (ring.push item).Valid := by
  have below := valid.size_lt room
  refine ⟨?_, ?_, ?_, ?_⟩
  · rw [capacity_push]
    exact valid.head_lt
  · rw [capacity_push]
    exact below
  · have size : (ring.push item).size = ring.size + 1 := rfl
    rw [size, place_push, ← next_place, ← valid.tail_eq]
    rfl
  · intro i hi
    have size : (ring.push item).size = ring.size + 1 := rfl
    rw [capacity_push] at hi
    rw [size, place_push, item?_push (place_lt valid.capacity_pos i), valid.tail_eq]
    by_cases last : i = ring.size
    · subst last
      simp
    · have apart : ring.place i ≠ ring.place ring.size := fun same =>
        last (valid.place_injective hi below same)
      rw [if_neg apart, valid.taken_iff i hi]
      omega

/-! ### Dropping the oldest item -/

@[simp] theorem capacity_dropHead (ring : RingBuffer α) :
    ring.dropHead.capacity = ring.capacity := by
  rw [dropHead]
  split
  · rfl
  · simp [RingBuffer.capacity]

/-- The places of a ring without its oldest item are shifted by one. -/
theorem place_dropHead {ring : RingBuffer α} (taken : ring.size ≠ 0) (i : Nat) :
    ring.dropHead.place i = ring.place (i + 1) := by
  rw [place, capacity_dropHead, dropHead, if_neg taken, place]
  simp only [next, Nat.mod_add_mod, Nat.add_assoc, Nat.add_comm 1 i]

theorem size_dropHead (ring : RingBuffer α) : ring.dropHead.size = ring.size - 1 := by
  rw [dropHead]
  split
  · omega
  · rfl

/-- Dropping vacates the slot at the head and leaves the other slots alone. -/
theorem item?_dropHead {ring : RingBuffer α} (taken : ring.size ≠ 0) {slot : Nat}
    (inside : slot < ring.capacity) :
    ring.dropHead.item? slot = if slot = ring.head then none else ring.item? slot := by
  have bound : slot < ring.slots.size := inside
  rw [item?, dropHead, if_neg taken, Array.getElem?_setIfInBounds]
  by_cases here : ring.head = slot
  · rw [if_pos here, if_pos here.symm, if_pos (here ▸ bound)]
    rfl
  · rw [if_neg here, if_neg (Ne.symm here), item?]

/-- No place behind the head, within one turn of the circle, is the head again. -/
theorem place_succ_ne_head {ring : RingBuffer α} (valid : ring.Valid) {i : Nat}
    (inside : i + 1 < ring.capacity) : ring.place (i + 1) ≠ ring.head := by
  intro same
  have := valid.place_injective inside valid.capacity_pos (same.trans (place_zero valid.head_lt).symm)
  omega

/-- A ring that is not empty begins with the item at its head, and dropping leaves the others. -/
theorem toList_eq_cons {ring : RingBuffer α} (valid : ring.Valid) (taken : ring.size ≠ 0) :
    ∃ item, ring.item? ring.head = some item ∧ ring.toList = item :: ring.dropHead.toList := by
  obtain ⟨item, found⟩ := valid.exists_item (Nat.pos_of_ne_zero taken)
  rw [place_zero valid.head_lt] at found
  refine ⟨item, found, ?_⟩
  obtain ⟨others, split⟩ : ∃ others, ring.size = others + 1 :=
    Nat.exists_eq_succ_of_ne_zero taken
  have head : ring.dropHead.head = ring.place 1 := by
    rw [dropHead, if_neg taken]
    rfl
  have kept : ring.itemsFrom (ring.place 1) others =
      ring.dropHead.itemsFrom (ring.place 1) others := by
    apply itemsFrom_congr (capacity_dropHead ring).symm
    · intro i hi
      have shifted : (ring.place 1 + i) % ring.capacity = ring.place (i + 1) := by
        simp only [place, Nat.mod_add_mod, Nat.add_assoc, Nat.add_comm 1 i]
      have bound : i + 1 < ring.capacity := by
        have := valid.size_le
        omega
      rw [shifted, item?_dropHead taken (place_lt valid.capacity_pos _),
        if_neg (place_succ_ne_head valid bound)]
    · exact place_lt valid.capacity_pos 1
  have size : ring.dropHead.size = others := by
    rw [size_dropHead, split, Nat.add_sub_cancel]
  rw [toList_eq valid, split, itemsFrom, next_place, place_zero valid.head_lt, found, kept, toList,
    head, size]
  rfl

/-- Dropping the head takes the first item away. -/
theorem toList_dropHead {ring : RingBuffer α} (valid : ring.Valid) :
    ring.dropHead.toList = ring.toList.tail := by
  by_cases vacant : ring.size = 0
  · rw [dropHead, if_pos vacant, toList_eq_nil vacant]
    rfl
  · obtain ⟨item, _, items⟩ := toList_eq_cons valid vacant
    rw [items]
    rfl

/-- What is on offer is the first item. -/
theorem peek?_eq {ring : RingBuffer α} (valid : ring.Valid) : ring.peek? = ring.toList.head? := by
  by_cases vacant : ring.size = 0
  · rw [peek?, if_pos vacant, toList_eq_nil vacant]
    rfl
  · obtain ⟨item, found, items⟩ := toList_eq_cons valid vacant
    rw [peek?, if_neg vacant, found, items]
    rfl

/-- Emptying a slot keeps a ring in order, an empty ring too. -/
theorem Valid.dropHead {ring : RingBuffer α} (valid : ring.Valid) : ring.dropHead.Valid := by
  by_cases vacant : ring.size = 0
  · rw [RingBuffer.dropHead, if_pos vacant]
    exact valid
  have size := valid.size_le
  refine ⟨?_, ?_, ?_, ?_⟩
  · rw [capacity_dropHead, RingBuffer.dropHead, if_neg vacant]
    exact Nat.mod_lt _ valid.capacity_pos
  · rw [capacity_dropHead, size_dropHead]
    omega
  · have tail : ring.dropHead.tail = ring.tail := by
      rw [RingBuffer.dropHead, if_neg vacant]
    rw [tail, place_dropHead vacant, size_dropHead, valid.tail_eq]
    congr 1
    omega
  · intro i hi
    rw [capacity_dropHead] at hi
    rw [place_dropHead vacant, item?_dropHead vacant (place_lt valid.capacity_pos _), size_dropHead]
    by_cases last : i + 1 = ring.capacity
    · -- one whole turn of the circle leads back to the head
      have around : ring.place (i + 1) = ring.head := by
        rw [place, last, Nat.add_mod_right, Nat.mod_eq_of_lt valid.head_lt]
      rw [if_pos around]
      simp only [Option.isSome_none, Bool.false_eq_true, false_iff]
      omega
    · have bound : i + 1 < ring.capacity := by omega
      rw [if_neg (place_succ_ne_head valid bound), valid.taken_iff _ bound]
      omega

/-! ### Draining -/

/-- A ring without items may count its places from the first slot, as every slot is vacant. -/
theorem Valid.rewind {ring : RingBuffer α} (valid : ring.Valid) (vacant : ring.size = 0) :
    ({ ring with head := 0, tail := 0 } : RingBuffer α).Valid where
  head_lt := valid.capacity_pos
  size_le := valid.size_le
  tail_eq := by
    dsimp only [place]
    rw [vacant, Nat.zero_mod]
  taken_iff := by
    intro i hi
    -- counted from the old head, the slot is the place `j`
    obtain ⟨j, hj, same⟩ := valid.exists_place (Nat.mod_lt (0 + i) valid.capacity_pos)
    have slot : ({ ring with head := 0, tail := 0 } : RingBuffer α).item?
        (({ ring with head := 0, tail := 0 } : RingBuffer α).place i) =
          ring.item? (ring.place j) := by
      rw [same]
      rfl
    rw [slot, valid.taken_iff j hj, vacant]
    exact iff_of_false (Nat.not_lt_zero j) (Nat.not_lt_zero i)

/-- The loop takes out every item, oldest first, behind those taken before. -/
theorem drainLoop_eq {ring : RingBuffer α} (valid : ring.Valid) (taken : List α) :
    (ring.drainLoop taken ring.size).1 = taken.reverse ++ ring.toList ∧
      (ring.drainLoop taken ring.size).2.toList = [] ∧
      (ring.drainLoop taken ring.size).2.capacity = ring.capacity ∧
      (ring.drainLoop taken ring.size).2.Valid := by
  generalize count : ring.size = size
  induction size generalizing ring taken with
  | zero =>
      refine ⟨?_, toList_eq_nil count, rfl, valid.rewind count⟩
      rw [toList_eq_nil count, List.append_nil]
      rfl
  | succ size ih =>
      have vacant : ring.size ≠ 0 := by omega
      obtain ⟨item, _, items⟩ := toList_eq_cons valid vacant
      have first : ring.peek? = some item := by
        rw [peek?_eq valid, items]
        rfl
      have rest := ih valid.dropHead ([item] ++ taken) (by rw [size_dropHead, count]; rfl)
      rw [drainLoop, dequeue, first]
      rw [capacity_dropHead] at rest
      refine ⟨?_, rest.2⟩
      rw [items]
      refine rest.1.trans ?_
      simp

/-- Draining gives all items, oldest first, and leaves an empty ring. -/
theorem drain_eq {ring : RingBuffer α} (valid : ring.Valid) :
    ring.drain.1 = ring.toList ∧ ring.drain.2.toList = [] ∧
      ring.drain.2.capacity = ring.capacity ∧ ring.drain.2.Valid := by
  have loop := drainLoop_eq valid []
  rwa [List.reverse_nil, List.nil_append] at loop

end TrafficMeter.Spool.RingBuffer
