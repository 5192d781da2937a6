/-
Module: TrafficMeter.Proofs.BoundedMemory
Purpose: How many records an outbox keeps in memory.  The ring holds no more than it has slots, and
  the overflow list fewer than that while the log takes bytes: an addition that would make it as long
  writes it to the log.  While the log takes none, the list grows by what is added, and the first
  addition after that writes all of it.  What comes back from the log always finds a free slot, as
  deliveries in between only make room.  The bytes of the log may be any.
Main exports: Outbox.Within, Outbox.Moves, Outbox.Within.setAside, Outbox.Within.add_spills,
  Outbox.Within.backfill, Inflow, Outbox.during_spec, Activity, Shipping.acts_within, memory_is_bounded
-/
import TrafficMeter.Proofs.DeliveryOrder
import TrafficMeter.Proofs.FailedCompaction
import TrafficMeter.Proofs.TornTail

namespace TrafficMeter.Spool

variable {α : Type} [Record α]

/-- A load finds the directory refuse what it refused, and leaves it so. -/
theorem Log.load_sameRefusals {log moved : Log} {limit : Nat} {records : List α}
    (loaded : log.load limit = .ok (records, moved)) : log.disk.SameRefusals moved.disk := by
  rw [load] at loaded
  split at loaded
  · cases loaded
    exact .refl _
  · split at loaded
    · cases loaded
    · split at loaded
      · cases loaded
      · dsimp only at loaded
        split at loaded
        · cases loaded
          exact emptied_sameRefusals log
        · cases loaded
          exact (moveOver_sameRefusals log _).trans (compactIfGrown_sameRefusals _)

namespace RingBuffer

omit [Record α]

/-- A ring with room is not full, also the ring of capacity zero. -/
theorem isFull_of_free {ring : RingBuffer α} (room : ring.free ≠ 0) : ring.isFull = false := by
  rw [free] at room
  rw [isFull, beq_eq_false_iff_ne]
  omega

theorem free_push (ring : RingBuffer α) (item : α) : (ring.push item).free = ring.free - 1 := by
  have size : (ring.push item).size = ring.size + 1 := rfl
  rw [free, free, capacity_push, size, Nat.sub_sub]

/-- Delivering the head never takes room away. -/
theorem free_le_dropHead (ring : RingBuffer α) : ring.free ≤ ring.dropHead.free := by
  rw [free, free, capacity_dropHead, size_dropHead]
  omega

end RingBuffer

end TrafficMeter.Spool

namespace TrafficMeter.Delivery

open Spool

variable {α : Type} [Record α]

namespace Outbox

/-! ### The bound -/

/-- An outbox in working order over a log of any bytes, with a ring of so many slots. -/
structure Within (outbox : Outbox α) (capacity : Nat) : Prop where
  ring : outbox.ring.Valid
  slots : outbox.ring.capacity = capacity
  log : outbox.log.Ready
  fitting : ∀ record ∈ outbox.overflow.toList, Record.fits record = true
  alone : outbox.queueOnly = true → outbox.overflow = #[]

/-- The overflow list is shorter than the ring, and the log takes bytes. -/
def Short (outbox : Outbox α) (capacity : Nat) : Prop :=
  outbox.log.disk.refusesAppends = false ∧ outbox.overflow.size < capacity

/-- An outbox has gone over to the next one.  Its overflow list lost records in front, if any, and
got no others than those added. -/
structure Moves (outbox : Outbox α) (capacity : Nat) (added : List α) (next : Outbox α) : Prop where
  within : next.Within capacity
  grown : next.overflow.toList <:+ outbox.overflow.toList ++ added
  short : outbox.Short capacity → next.Short capacity

variable {outbox : Outbox α} {capacity : Nat}

theorem Within.capacity_pos (within : outbox.Within capacity) : 0 < capacity :=
  within.slots ▸ within.ring.capacity_pos

/-- Doing nothing is a move within the bound. -/
theorem Within.refl (within : outbox.Within capacity) : outbox.Moves capacity [] outbox :=
  ⟨within, (List.append_nil _).symm ▸ List.suffix_refl _, id⟩

theorem Within.length_le (within : outbox.Within capacity) :
    outbox.ring.toList.length ≤ capacity := by
  rw [within.ring.length_toList, ← within.slots]
  exact within.ring.size_le

/-- A delivered head leaves the bound and its moves as they were. -/
theorem Within.dropHead (within : outbox.Within capacity) :
    outbox.Moves capacity [] { outbox with ring := outbox.ring.dropHead } :=
  ⟨⟨within.ring.dropHead, (RingBuffer.capacity_dropHead _).trans within.slots, within.log,
    within.fitting, within.alone⟩, within.refl.grown, id⟩

/-! ### Setting aside -/

/-- A record that fits a frame may go to the overflow, where no bound on their number is kept. -/
theorem Within.pushOverflow (within : outbox.Within capacity) {record : α}
    (fits : Record.fits record = true) :
    { outbox with overflow := outbox.overflow.push record, queueOnly := false }.Within capacity := by
  refine ⟨within.ring, within.slots, within.log, ?_, fun only => nomatch only⟩
  intro item member
  rw [Array.toList_push] at member
  rcases List.mem_append.mp member with old | new
  · exact within.fitting item old
  · rw [List.mem_singleton.mp new]
    exact fits

/-- A record that is set aside goes behind the overflow list.  If that makes the list as long as the
ring, all of it goes to the log, unless the log takes no bytes. -/
theorem Within.setAside (within : outbox.Within capacity) {record : α}
    (fits : Record.fits record = true) :
    let next : Outbox α := { outbox.setAside record with queueOnly := false }
    outbox.Moves capacity [record] next ∧
      (outbox.log.disk.refusesAppends = false → capacity ≤ outbox.overflow.size + 1 →
        next.overflow = #[] ∧ next.log.offset = outbox.log.offset ∧
          next.log.content =
            outbox.log.content ++ Frame.ofRecords (outbox.overflow.toList ++ [record])) := by
  intro next
  let kept : Outbox α :=
    { outbox with overflow := outbox.overflow.push record, queueOnly := false }
  have pushed : kept.overflow.toList = outbox.overflow.toList ++ [record] := Array.toList_push
  have size : kept.overflow.size = outbox.overflow.size + 1 := Array.size_push record
  have keeps : kept.Within capacity := within.pushOverflow fits
  have suffix : kept.overflow.toList <:+ outbox.overflow.toList ++ [record] :=
    pushed ▸ List.suffix_refl _
  -- three ways: the list stays short, it is due for the log that refuses it, or it is written
  by_cases room : outbox.overflow.size + 1 < capacity
  · have shape : next = kept := by
      simp only [next, Outbox.setAside, Array.size_push, within.slots, room, decide_true,
        Bool.true_or, if_true, kept]
    rw [shape]
    refine ⟨⟨keeps, suffix, fun short => ⟨short.1, size ▸ room⟩⟩, fun _ long => ?_⟩
    exact absurd long (Nat.not_le_of_lt room)
  · cases takes : outbox.log.disk.refusesAppends with
    | true =>
        have failed : outbox.log.store (outbox.overflow.push record).toList =
            .error (.io "the log takes no further bytes") := by
          simp [Log.store, within.log.isOpen, takes]
        have shape : next = kept := by
          simp only [next, Outbox.setAside, Array.size_push, within.slots, room, decide_false,
            within.log.isOpen, Bool.not_true, Bool.or_self, Bool.false_eq_true, if_false, failed,
            kept]
        rw [shape]
        refine ⟨⟨keeps, suffix, fun short => ?_⟩, fun vain => ?_⟩
        · cases takes.symm.trans short.1
        · cases vain
    | false =>
        obtain ⟨log, succeeded, standing, content, offset, _, agrees⟩ :=
          Log.store_spec within.log takes (outbox.overflow.push record).toList
        have shape : next = { kept with log, overflow := #[] } := by
          simp only [next, Outbox.setAside, Array.size_push, within.slots, room, decide_false,
            within.log.isOpen, Bool.not_true, Bool.or_self, Bool.false_eq_true, if_false,
            succeeded, kept]
        rw [shape]
        have written : ({ kept with log, overflow := #[] } : Outbox α).Within capacity :=
          ⟨within.ring, within.slots, standing, List.forall_mem_nil _, fun _ => rfl⟩
        refine ⟨⟨written, List.nil_suffix, fun short => ?_⟩, fun _ _ => ⟨rfl, offset, ?_⟩⟩
        · exact ⟨agrees.refusesAppends.trans short.1, within.capacity_pos⟩
        · rw [← pushed]
          exact content

/-- A new record goes to the ring while nothing waits behind it and there is room; else it is set
aside. -/
theorem Within.add (within : outbox.Within capacity) (record : α) :
    outbox.Moves capacity ([record].filter Record.fits) (outbox.add record) := by
  by_cases fits : Record.fits record = true
  · rw [Outbox.add, if_pos fits, List.filter_cons_of_pos fits, List.filter_nil, takeIn,
      Bool.or_false]
    split
    · next straight =>
        obtain ⟨only, free⟩ := Bool.and_eq_true_iff.mp straight
        have room : outbox.ring.isFull = false := by simpa using free
        refine ⟨⟨within.ring.push room record, ?_, within.log, within.fitting, within.alone⟩, ?_, id⟩
        · exact (RingBuffer.capacity_push _ _).trans within.slots
        · dsimp only
          rw [within.alone only]
          exact List.nil_suffix
    · exact (within.setAside fits).1
  · rw [Outbox.add, if_neg fits, List.filter_cons_of_neg fits, List.filter_nil]
    exact within.refl

/-- While stores succeed, an addition that finds the overflow list as long as the ring, or makes it
so, writes all of it to the log. -/
theorem Within.add_spills (within : outbox.Within capacity)
    (takes : outbox.log.disk.refusesAppends = false) {record : α}
    (fits : Record.fits record = true)
    (long : capacity ≤ outbox.overflow.size ∨ capacity ≤ outbox.overflow.size + 1 ∧
      ¬ (outbox.queueOnly = true ∧ outbox.ring.isFull = false)) :
    (outbox.add record).overflow = #[] ∧ (outbox.add record).log.offset = outbox.log.offset ∧
      (outbox.add record).log.content =
        outbox.log.content ++ Frame.ofRecords (outbox.overflow.toList ++ [record]) := by
  have aside : ¬ (outbox.queueOnly = true ∧ outbox.ring.isFull = false) := by
    rcases long with found | ⟨_, aside⟩
    · -- a list that long is not empty, so nothing goes past it
      rintro ⟨only, _⟩
      rw [within.alone only] at found
      exact absurd within.capacity_pos (Nat.not_lt_of_le found)
    · exact aside
  have enough : capacity ≤ outbox.overflow.size + 1 := by
    rcases long with found | ⟨made, _⟩
    · exact Nat.le_succ_of_le found
    · exact made
  have shape : outbox.add record = { outbox.setAside record with queueOnly := false } := by
    rw [Outbox.add, if_pos fits, takeIn, Bool.or_false, if_neg]
    simpa using aside
  rw [shape]
  exact (within.setAside fits).2 takes enough

/-! ### Filling free slots -/

omit [Record α] in
@[simp] theorem capacity_refill (ring : RingBuffer α) (records : List α) :
    (refill ring records).1.capacity = ring.capacity := by
  induction records generalizing ring with
  | nil => rfl
  | cons record others ih =>
      rw [refill]
      split
      · rfl
      · rw [ih, RingBuffer.capacity_push]

/-- Free slots are filled with what is loaded for them, and then from the overflow list. -/
theorem Within.backfill (within : outbox.Within capacity) :
    outbox.Moves capacity [] outbox.backfill := by
  rw [Outbox.backfill]
  split
  · exact within.refl
  · split
    · exact within.refl
    · next records log loaded =>
        obtain ⟨ready, few, _⟩ := Log.load_leaves within.log loaded
        have refusals := (Log.load_sameRefusals loaded).appends
        let moved : Outbox α := { outbox with log }
        have valid : moved.ring.Valid := within.ring
        obtain ⟨ring, replayed, valid', _, slots⟩ := replay_spec valid few
        have same : { outbox with log }.replay records = { outbox with log, ring } := replayed
        rw [same]
        have standing : { outbox with log, ring }.Within capacity :=
          ⟨valid', slots.trans within.slots, ready, within.fitting, within.alone⟩
        dsimp only
        split
        · refine ⟨standing, ?_, fun short => ⟨refusals.trans short.1, short.2⟩⟩
          rw [List.append_nil]
        · obtain ⟨valid'', _, _, rest⟩ := refill_spec valid' outbox.overflow.toList
          refine ⟨⟨valid'', (capacity_refill _ _).trans standing.slots, ready, ?_, ?_⟩, ?_,
            fun short => ⟨refusals.trans short.1, ?_⟩⟩
          · intro record member
            exact within.fitting record (rest.subset (List.toList_toArray ▸ member))
          · intro only
            rcases Bool.or_eq_true_iff.mp only with none | before
            · exact congrArg List.toArray (List.isEmpty_iff.mp none)
            · rw [within.alone before] at rest ⊢
              exact congrArg List.toArray (List.suffix_nil.mp rest)
          · rw [List.append_nil]
            exact rest
          · have fewer := rest.length_le
            rw [Array.length_toList] at fewer
            exact Nat.lt_of_le_of_lt (List.size_toArray ▸ fewer) short.2

end Outbox

/-- What happens to the ring while records come back from the log. -/
inductive Inflow (α : Type) where
  | replay (record : α)
  /-- the oldest record is settled meanwhile -/
  | settle

namespace Inflow

/-- The record that comes back, if one does. -/
def record? : Inflow α → Option α
  | .replay record => some record
  | .settle => none

/-- The records that come back, in order. -/
def records (inflow : List (Inflow α)) : List α :=
  inflow.filterMap record?

omit [Record α]

@[simp] theorem records_replay (record : α) (later : List (Inflow α)) :
    records (.replay record :: later) = record :: records later :=
  rfl

@[simp] theorem records_settle (later : List (Inflow α)) :
    records (.settle :: later) = records later :=
  rfl

/-- The records of two inflows one after the other. -/
theorem records_append (front back : List (Inflow α)) :
    records (front ++ back) = records front ++ records back :=
  List.filterMap_append

/-- Replayed records arrive one by one, as they are, in their order. -/
theorem records_map_replay (records : List α) : Inflow.records (records.map .replay) = records := by
  induction records with
  | nil => rfl
  | cons record others ih => rw [List.map_cons, records_replay, ih]

end Inflow

namespace Outbox

def flow (outbox : Outbox α) : Inflow α → Outbox α
  | .replay record => outbox.takeIn record true
  | .settle => { outbox with ring := outbox.ring.dropHead }

def during (outbox : Outbox α) (inflow : List (Inflow α)) : Outbox α :=
  inflow.foldl flow outbox

/-- A replay is an inflow during which nothing is settled. -/
theorem during_map_replay (outbox : Outbox α) (records : List α) :
    outbox.during (records.map .replay) = outbox.replay records :=
  List.foldl_map

/-- Slots that were counted as free stay so, except those that were filled since. -/
theorem during_spec (outbox : Outbox α) {inflow : List (Inflow α)}
    (room : (Inflow.records inflow).length ≤ outbox.ring.free) :
    ∃ ring, outbox.during inflow = { outbox with ring } ∧
      outbox.ring.free ≤ ring.free + (Inflow.records inflow).length := by
  induction inflow generalizing outbox with
  | nil => exact ⟨outbox.ring, rfl, Nat.le_refl _⟩
  | cons first later ih =>
      cases first with
      | replay record =>
          rw [Inflow.records_replay, List.length_cons] at room ⊢
          have vacant : outbox.ring.isFull = false := RingBuffer.isFull_of_free (by omega)
          let next : Outbox α := { outbox with ring := outbox.ring.push record }
          have taken : outbox.flow (.replay record) = next := by
            simp [flow, takeIn, vacant, next]
          have free : next.ring.free = outbox.ring.free - 1 := RingBuffer.free_push _ _
          obtain ⟨ring, reached, left⟩ := ih next (by omega)
          refine ⟨ring, ?_, by omega⟩
          rw [during, List.foldl_cons, taken]
          exact reached
      | settle =>
          rw [Inflow.records_settle] at room ⊢
          let next : Outbox α := { outbox with ring := outbox.ring.dropHead }
          have free : outbox.ring.free ≤ next.ring.free := RingBuffer.free_le_dropHead _
          obtain ⟨ring, reached, left⟩ := ih next (Nat.le_trans room free)
          exact ⟨ring, reached, Nat.le_trans free left⟩

/-- Each record that comes back finds a free slot, if no more come back than were free. -/
theorem during_finds_room (outbox : Outbox α) {inflow : List (Inflow α)}
    (room : (Inflow.records inflow).length ≤ outbox.ring.free) :
    (∀ earlier record later, inflow = earlier ++ .replay record :: later →
      (outbox.during earlier).ring.isFull = false) ∧
        (outbox.during inflow).overflow = outbox.overflow := by
  constructor
  · rintro earlier record later rfl
    rw [Inflow.records_append, Inflow.records_replay, List.length_append, List.length_cons] at room
    have before : (Inflow.records earlier).length ≤ outbox.ring.free := by omega
    obtain ⟨ring, reached, left⟩ := outbox.during_spec before
    have vacant : ring.free ≠ 0 := by omega
    rw [reached]
    exact RingBuffer.isFull_of_free vacant
  · obtain ⟨ring, reached, _⟩ := outbox.during_spec room
    rw [reached]

/-! ### Starting -/

/-- A fresh outbox that was started keeps within its bounds, whatever bytes were opened. -/
theorem start_within {disk : Disk} (sound : disk.Sound) {settings : DeliverySettings} {moment : Nat}
    {started : Outbox α} (succeeded : (create disk settings : Outbox α).start moment = .ok started) :
    started.Within (max settings.queueCapacity 1) ∧ started.overflow = #[] ∧
      started.log.disk.refusesAppends = disk.refusesAppends := by
  let fresh : Outbox α := create disk settings
  have idle : fresh.running = false := rfl
  have closed : fresh.log.isOpen = false := rfl
  have valid : fresh.ring.Valid := RingBuffer.valid_empty _
  have slots : fresh.ring.capacity = max settings.queueCapacity 1 := RingBuffer.capacity_empty _
  have openable := (exists_start_create_iff sound settings moment).mp ⟨started, succeeded⟩
  obtain ⟨opened, opens, ready, _, _, _, _, agrees⟩ := Log.open_cuts closed sound openable
  cases loaded : opened.load (α := α) fresh.ring.free with
  | error error =>
      let replayed : Outbox α := { fresh with log := opened, running := true }
      have starts : fresh.start moment = .ok { replayed with
          queueOnly :=
            replayed.logIsDrained && decide (0 < replayed.ring.free) || replayed.queueOnly
          courier := .due moment } :=
        start_of_open idle opens (by rw [loaded]) rfl moment
      cases starts.symm.trans succeeded
      exact ⟨⟨valid, slots, ready, List.forall_mem_nil _, fun _ => rfl⟩, rfl,
        agrees.refusesAppends⟩
  | ok read =>
      obtain ⟨records, log⟩ := read
      obtain ⟨standing, few, _⟩ := Log.load_leaves ready loaded
      let moved : Outbox α := { fresh with log, running := true }
      have vacant : moved.ring.Valid := valid
      obtain ⟨ring, same, valid', _, kept⟩ := replay_spec vacant few
      let replayed : Outbox α := { fresh with log, ring, running := true }
      have starts : fresh.start moment = .ok { replayed with
          queueOnly :=
            replayed.logIsDrained && decide (0 < replayed.ring.free) || replayed.queueOnly
          courier := .due moment } :=
        start_of_open idle opens (by rw [loaded]; exact same) rfl moment
      cases starts.symm.trans succeeded
      exact ⟨⟨valid', kept.trans slots, standing, List.forall_mem_nil _, fun _ => rfl⟩, rfl,
        (Log.load_sameRefusals loaded).appends.trans agrees.refusesAppends⟩

end Outbox

/-! ### Courses -/

/-- What happens to an outbox, with fillings of free slots at any time, the ring empty or not. -/
inductive Activity (α : Type) where
  | happens (event : Event α)
  | backfill

namespace Activity

/-- The records that are added for delivery. -/
def admitted : Activity α → List α
  | .happens event => event.admitted
  | .backfill => []

/-- Whether the log takes bytes after that, if it took them before. -/
def TakesAppends : Activity α → Prop
  | .happens (.disturb around) => around.refusesAppends = false
  | _ => True

end Activity

namespace Shipping

def act (shipping : Shipping α) : Activity α → Shipping α
  | .happens event => shipping.step event
  | .backfill => { shipping with outbox := shipping.outbox.backfill }

def acts (shipping : Shipping α) (course : List (Activity α)) : Shipping α :=
  course.foldl act shipping

variable {shipping : Shipping α} {capacity : Nat}

/-- The step, whatever happens. -/
theorem act_within (within : shipping.outbox.Within capacity) (activity : Activity α) :
    (shipping.act activity).outbox.Within capacity ∧
      (shipping.act activity).outbox.overflow.toList <:+
        shipping.outbox.overflow.toList ++ activity.admitted ∧
      (activity.TakesAppends → shipping.outbox.Short capacity →
        (shipping.act activity).outbox.Short capacity) := by
  have of_moves {added : List α} {next : Outbox α}
      (moves : shipping.outbox.Moves capacity added next) : next.Within capacity ∧
        next.overflow.toList <:+ shipping.outbox.overflow.toList ++ added ∧
        (activity.TakesAppends → shipping.outbox.Short capacity → next.Short capacity) :=
    ⟨moves.within, moves.grown, fun _ => moves.short⟩
  have unchanged := of_moves within.refl
  cases activity with
  | backfill => exact of_moves within.backfill
  | happens event =>
      cases event with
      | add record => exact of_moves (within.add record)
      | offer =>
          rw [act, step]
          split
          · exact unchanged
          · exact of_moves within.backfill
          · exact unchanged
      | answer answer =>
          rw [act, step]
          split
          · exact unchanged
          · dsimp only
            rw [settle_eq]
            split
            · exact of_moves within.dropHead
            · exact unchanged
      | disturb around =>
          obtain ⟨identity, named⟩ := within.log.named
          have ready : (shipping.act (.happens (.disturb around))).outbox.log.Ready :=
            ⟨⟨identity, named⟩, within.log.within⟩
          exact ⟨⟨within.ring, within.slots, ready, within.fitting, within.alone⟩, unchanged.2.1,
            fun takes short => ⟨takes, short.2⟩⟩

/-- The run. -/
theorem acts_within (within : shipping.outbox.Within capacity) (course : List (Activity α)) :
    (shipping.acts course).outbox.Within capacity ∧
      (shipping.acts course).outbox.overflow.toList <:+
        shipping.outbox.overflow.toList ++ course.flatMap Activity.admitted ∧
      ((∀ activity ∈ course, activity.TakesAppends) → shipping.outbox.Short capacity →
        (shipping.acts course).outbox.Short capacity) := by
  induction course generalizing shipping with
  | nil =>
      refine ⟨within, ?_, fun _ => id⟩
      rw [List.flatMap_nil, List.append_nil]
      exact List.suffix_refl _
  | cons activity later ih =>
      obtain ⟨within', grown, short⟩ := act_within within activity
      obtain ⟨reached, grown', short'⟩ := ih within'
      refine ⟨reached, ?_, fun takes before => ?_⟩
      · rw [List.flatMap_cons, ← List.append_assoc]
        obtain ⟨gone, whole⟩ := grown
        exact grown'.trans ⟨gone, by rw [← whole, List.append_assoc]⟩
      · obtain ⟨first, others⟩ := List.forall_mem_cons.mp takes
        exact short' others (short first before)

end Shipping

/-! ### The bound, over a course -/

/-- A fresh outbox can be started over any bytes that can be opened, and then records are added, the loop
delivers, and free slots are filled, while the directory gives and takes bytes or refuses to.  At
every moment the ring holds no more records than it has slots; the overflow list holds fewer if the
log always took bytes, and no others than those added since any moment or there at that moment, in
order.  Once the log takes bytes, the first addition that finds the list as long as the ring, or makes
it so, writes all of it to the log; a record that fits in no frame is not taken in.  And each record
that is loaded to fill free slots finds one, whatever is settled in between. -/
theorem memory_is_bounded {disk : Disk} (sound : disk.Sound) (settings : DeliverySettings)
    (moment : Nat) :
    let capacity := max settings.queueCapacity 1
    ((∃ started, (Outbox.create disk settings : Outbox α).start moment = .ok started) ↔
      disk.Openable) ∧
    ∀ started, (Outbox.create disk settings : Outbox α).start moment = .ok started →
      ∀ course : List (Activity α),
        let shipping := (⟨started, none, []⟩ : Shipping α).acts course
        let outbox := shipping.outbox
        outbox.ring.toList.length ≤ capacity ∧
        (disk.refusesAppends = false → (∀ activity ∈ course, activity.TakesAppends) →
          outbox.overflow.size < capacity) ∧
        (∀ later : List (Activity α), (shipping.acts later).outbox.overflow.toList <:+
          outbox.overflow.toList ++ later.flatMap Activity.admitted) ∧
        (∀ record : α, if Record.fits record then
          outbox.log.disk.refusesAppends = false →
          capacity ≤ outbox.overflow.size ∨ capacity ≤ outbox.overflow.size + 1 ∧
            ¬ (outbox.queueOnly = true ∧ outbox.ring.isFull = false) →
          (∀ item ∈ outbox.overflow.toList, Record.fits item = true) ∧
            (outbox.add record).overflow = #[] ∧
            (outbox.add record).log.offset = outbox.log.offset ∧
            (outbox.add record).log.content =
              outbox.log.content ++ Frame.ofRecords (outbox.overflow.toList ++ [record])
          else outbox.add record = outbox) ∧
        ∀ (records : List α) (log : Log), outbox.log.load outbox.ring.free = .ok (records, log) →
          let filling := { outbox with log }
          (filling.replay records).overflow = outbox.overflow ∧
          ∀ inflow, Inflow.records inflow = records →
            (∀ earlier record later, inflow = earlier ++ .replay record :: later →
              (filling.during earlier).ring.isFull = false) ∧
            (filling.during inflow).overflow = outbox.overflow := by
  intro capacity
  refine ⟨Outbox.exists_start_create_iff sound settings moment, fun started succeeded course => ?_⟩
  obtain ⟨within, nothing, refusals⟩ := Outbox.start_within sound succeeded
  intro shipping outbox
  have begins : (⟨started, none, []⟩ : Shipping α).outbox.Within capacity := within
  obtain ⟨reached, _, short⟩ := Shipping.acts_within begins course
  refine ⟨reached.length_le, fun takes kept => ?_, fun later => ?_, fun record => ?_, ?_⟩
  · refine (short kept ⟨refusals.trans takes, ?_⟩).2
    rw [nothing]
    exact within.capacity_pos
  · exact (Shipping.acts_within reached later).2.1
  · split
    · next fits =>
        intro takes long
        exact ⟨reached.fitting, reached.add_spills takes fits long⟩
    · next unfit => rw [Outbox.add, if_neg unfit]
  · intro records log loaded filling
    have few : records.length ≤ filling.ring.free := (Log.load_leaves reached.log loaded).2.1
    have finds : ∀ inflow, Inflow.records inflow = records →
        (∀ earlier record later, inflow = earlier ++ .replay record :: later →
          (filling.during earlier).ring.isFull = false) ∧
            (filling.during inflow).overflow = outbox.overflow :=
      fun inflow same => filling.during_finds_room (same ▸ few)
    refine ⟨?_, finds⟩
    rw [← Outbox.during_map_replay]
    exact (finds _ (Inflow.records_map_replay records)).2

/-- The log takes no bytes for a while, in which a record is added. -/
def sampleActivities : List (Activity Octets) :=
  [.happens (.disturb { refusesAppends := true }), .happens (.add ⟨[3]⟩), .happens (.disturb {})]

theorem memory_is_bounded_of_sampleActivities :
    ∃ started, (Outbox.create sampleDisk { queueCapacity := 1 } : Outbox Octets).start 0 =
        .ok started ∧
      let outbox := ((⟨started, none, []⟩ : Shipping Octets).acts sampleActivities).outbox
      outbox.ring.toList.length ≤ 1 ∧ outbox.overflow = #[⟨[3]⟩] ∧
        (outbox.add ⟨[4]⟩).overflow = #[] ∧
        (outbox.add ⟨[4]⟩).log.content = [1, 0, 1, 1, 0, 2, 1, 0, 3, 1, 0, 4] := by
  have sound : sampleDisk.Sound := by
    intro identity named
    cases named
    exact Nat.one_pos
  have openable : sampleDisk.Openable := Disk.openable_of_reads (by decide) rfl
  obtain ⟨starts, bounded⟩ := memory_is_bounded (α := Octets) sound { queueCapacity := 1 } 0
  obtain ⟨started, succeeded⟩ := starts.mpr openable
  obtain ⟨ring, _, _, spills, _⟩ := bounded started succeeded sampleActivities
  refine ⟨started, succeeded, ring, ?_⟩
  have state : ((Outbox.create sampleDisk { queueCapacity := 1 } : Outbox Octets).start 0).map
      (fun started =>
        let outbox := ((⟨started, none, []⟩ : Shipping Octets).acts sampleActivities).outbox
        (outbox.overflow, outbox.log.disk.refusesAppends, outbox.log.content)) =
      .ok (#[⟨[3]⟩], false, [1, 0, 1, 1, 0, 2]) := by decide +kernel
  rw [succeeded] at state
  obtain ⟨overflow, takes, content⟩ : _ ∧ _ ∧ _ := by simpa [Except.map] using state
  obtain ⟨_, written, _, grown⟩ := spills ⟨[4]⟩ takes (.inl (by rw [overflow]; decide))
  refine ⟨overflow, written, grown.trans ?_⟩
  rw [overflow, content]
  decide

end TrafficMeter.Delivery
