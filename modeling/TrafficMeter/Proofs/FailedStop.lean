/-
Module: TrafficMeter.Proofs.FailedStop
Purpose: What an outbox holds after a stop that could not write to the log.  The stop takes everything
  out of the ring and the overflow list before it writes the log anew, and where that fails it does not
  put anything back.  So the records that the log has not read are kept, and all others are gone; and a
  later stop has nothing to do.
Main exports: Incident, Outbox.meet, Outbox.live, Outbox.Standing, Outbox.Standing.live, Outbox.held,
  failed_stop_keeps_iff, failed_stop_loses_records
-/
import TrafficMeter.Proofs.CrashDelivery
import TrafficMeter.Proofs.FailedCompaction

namespace TrafficMeter.Spool.Log

variable {α : Type} [Record α] {log next : Log}

/-! ### A log stays open -/

theorem isOpen_append (log : Log) (bytes : Bytes) : (log.append bytes).isOpen = log.isOpen := by
  obtain ⟨disk, threshold, handle, offset⟩ := log
  cases handle <;> rfl

theorem isOpen_setContent (log : Log) (bytes : Bytes) :
    (log.setContent bytes).isOpen = log.isOpen := by
  obtain ⟨disk, threshold, handle, offset⟩ := log
  cases handle <;> rfl

theorem isOpen_of_open (opened : log.open = .ok next) : next.isOpen = true := by
  rw [Log.open] at opened
  split at opened
  · next isOpen =>
      cases opened
      exact isOpen
  · split at opened
    · cases opened
    · next identity disk found =>
        dsimp only at opened
        generalize (if (disk.content identity).length < disk.storedOffset then 0
          else disk.storedOffset) = offset at opened
        split at opened
        · cases opened
        · cases opened
          rfl

theorem isOpen_of_store {records : List α} (stored : log.store records = .ok next) :
    next.isOpen = log.isOpen := by
  rw [store] at stored
  split at stored
  · cases stored
    rfl
  · split at stored
    · cases stored
    · split at stored
      · cases stored
      · cases stored
        exact isOpen_append log _

/-- A failed compaction leaves the log open, as a successful one does. -/
theorem isOpen_rewrite (isOpen : log.isOpen = true) (before after : List α) :
    (log.rewrite before after).2.isOpen = true := by
  by_cases rewritable : log.Rewritable
  · rw [rewrite_eq rewritable]
    rfl
  · obtain ⟨error, temporary, failed⟩ := rewrite_of_not_rewritable rewritable before after
    rw [failed]
    exact isOpen

theorem isOpen_compactIfGrown (isOpen : log.isOpen = true) :
    (compactIfGrown α log).isOpen = true := by
  rw [compactIfGrown]
  split
  · exact isOpen_rewrite isOpen [] []
  · exact isOpen

theorem isOpen_of_load {limit : Nat} {records : List α}
    (loaded : log.load limit = .ok (records, next)) (isOpen : log.isOpen = true) :
    next.isOpen = true := by
  rw [load] at loaded
  split at loaded
  · cases loaded
    exact isOpen
  · split at loaded
    · cases loaded
    · split at loaded
      · cases loaded
      · dsimp only at loaded
        split at loaded
        · cases loaded
          exact (isOpen_setContent log []).trans isOpen
        · cases loaded
          apply isOpen_compactIfGrown
          split
          · exact isOpen
          · exact isOpen

end TrafficMeter.Spool.Log

namespace TrafficMeter.Delivery

open Spool

variable {α : Type} [Record α]

/-! ### The life of an outbox -/

/-- What happens to an outbox. -/
inductive Incident (α : Type) where
  | add (record : α) (force : Bool)
  | start (moment : Nat)
  /-- the delivery loop takes at most so many turns, with a client that answers as it likes -/
  | turns (moment limit : Nat) (client : Client α)
  | stop
  /-- the directory is changed without the outbox -/
  | disturb (change : Disk → Disk)

namespace Outbox

/-- What an incident makes of an outbox; a start that fails leaves it as it was. -/
def meet (outbox : Outbox α) : Incident α → Outbox α
  | .add record force => outbox.add record force
  | .start moment => (outbox.start moment).toOption.getD outbox
  | .turns moment limit client => (Outbox.turns moment limit outbox client).1
  | .stop => outbox.stop.2
  | .disturb change => outbox.onDisk (change outbox.log.disk)

def live (outbox : Outbox α) (life : List (Incident α)) : Outbox α :=
  life.foldl meet outbox

/-- The records that an outbox holds in memory or in the unread bytes of its log, in order. -/
def held (outbox : Outbox α) : List α :=
  outbox.contents (Frame.recordsIn outbox.log.unread)

/-- An outbox with a ring in order, whose log is open while it runs. -/
structure Standing (outbox : Outbox α) : Prop where
  ring : outbox.ring.Valid
  isOpen : outbox.running = true → outbox.log.isOpen = true

namespace Standing

variable {outbox : Outbox α}

omit [Record α] in
/-- A fresh outbox has an empty ring and does not run. -/
theorem create (disk : Disk) (settings : DeliverySettings) :
    (Outbox.create disk settings : Outbox α).Standing := by
  refine ⟨RingBuffer.valid_empty _, fun running => ?_⟩
  cases running

/-- Taking a record in leaves the log alone or appends to it. -/
theorem takeIn (standing : outbox.Standing) (record : α) (force : Bool) :
    (outbox.takeIn record force).Standing := by
  rw [Outbox.takeIn]
  split
  · next straight =>
      have free := (Bool.and_eq_true_iff.mp straight).2
      have room : outbox.ring.isFull = false := by simpa using free
      exact ⟨standing.ring.push room record, standing.isOpen⟩
  · dsimp only
    rw [setAside]
    dsimp only
    split
    · exact ⟨standing.ring, standing.isOpen⟩
    · split
      · next stored =>
          exact ⟨standing.ring, fun running =>
            (Log.isOpen_of_store stored).trans (standing.isOpen running)⟩
      · exact ⟨standing.ring, standing.isOpen⟩

theorem add (standing : outbox.Standing) (record : α) (force : Bool) :
    (outbox.add record force).Standing := by
  rw [Outbox.add]
  split
  · exact standing.takeIn record force
  · exact standing

theorem replay (standing : outbox.Standing) (records : List α) :
    (outbox.replay records).Standing := by
  induction records generalizing outbox with
  | nil => exact standing
  | cons record others ih => exact ih (standing.takeIn record true)

/-- A refill loads from the log it has; it closes nothing. -/
theorem backfill (standing : outbox.Standing) : outbox.backfill.Standing := by
  rw [Outbox.backfill]
  split
  · exact standing
  · split
    · exact standing
    · next records log loaded =>
        have moved : { outbox with log }.Standing :=
          ⟨standing.ring, fun running => Log.isOpen_of_load loaded (standing.isOpen running)⟩
        have replayed := moved.replay records
        dsimp only
        split
        · exact replayed
        · exact ⟨(refill_spec replayed.ring _).1, replayed.isOpen⟩

/-- A start that succeeds has opened the log. -/
theorem start (standing : outbox.Standing) {moment : Nat} {started : Outbox α}
    (succeeded : outbox.start moment = .ok started) : started.Standing := by
  rw [Outbox.start] at succeeded
  split at succeeded
  · cases succeeded
    exact standing
  · split at succeeded
    · cases succeeded
    · next opened found =>
        have isOpen := Log.isOpen_of_open found
        cases succeeded
        split
        · next records log loaded =>
            have moved : { outbox with log, running := true }.Standing :=
              ⟨standing.ring, fun _ => Log.isOpen_of_load loaded isOpen⟩
            have replayed := moved.replay records
            exact ⟨replayed.ring, replayed.isOpen⟩
        · exact ⟨standing.ring, fun _ => isOpen⟩

theorem turn (standing : outbox.Standing) (client : Client α) : (outbox.turn client).1.Standing := by
  rw [Outbox.turn]
  split
  · exact standing.backfill
  · dsimp only
    rw [Shipping.settle_eq]
    split
    · exact ⟨standing.ring.dropHead, standing.isOpen⟩
    · exact standing

/-- Any number of turns of the delivery loop. -/
theorem turns (standing : outbox.Standing) (moment limit : Nat) (client : Client α) :
    (Outbox.turns moment limit outbox client).1.Standing := by
  induction limit generalizing outbox client with
  | zero => exact standing
  | succ limit ih =>
      have turned := standing.turn client
      rw [Outbox.turns]
      generalize outbox.turn client = turn at turned ⊢
      obtain ⟨next, client', pace⟩ := turn
      cases pace with
      | again => exact ih turned client'
      | pause milliseconds =>
          cases milliseconds with
          | zero => exact ih turned client'
          | succ further => exact ⟨turned.ring, turned.isOpen⟩
      | wait => exact ⟨turned.ring, turned.isOpen⟩

/-- A stop ends the run before it writes to the log, so its failure cannot leave one behind. -/
theorem stop (standing : outbox.Standing) : outbox.stop.2.Standing := by
  rw [Outbox.stop]
  split
  · obtain ⟨_, _, _, valid⟩ := RingBuffer.drain_eq standing.ring
    rw [persist]
    dsimp only
    split
    · refine ⟨valid, fun running => ?_⟩
      cases running
    · refine ⟨valid, fun running => ?_⟩
      cases running
  · exact standing

/-- One incident. -/
theorem meet (standing : outbox.Standing) (incident : Incident α) :
    (outbox.meet incident).Standing := by
  cases incident with
  | add record force => exact standing.add record force
  | start moment =>
      rw [Outbox.meet]
      cases succeeded : outbox.start moment with
      | ok started => exact standing.start succeeded
      | error error => exact standing
  | turns moment limit client => exact standing.turns moment limit client
  | stop => exact standing.stop
  | disturb change => exact ⟨standing.ring, standing.isOpen⟩

/-- A whole life. -/
theorem live (standing : outbox.Standing) (life : List (Incident α)) :
    (outbox.live life).Standing := by
  induction life generalizing outbox with
  | nil => exact standing
  | cons incident later ih => exact ih (standing.meet incident)

/-! ### Stopping -/

/-- A stop whose rewrite of the log fails has taken everything out of memory by then, and puts nothing
back. -/
theorem stop_of_failed {error : StorageError} {log : Log} (running : outbox.running = true)
    (failed : outbox.log.rewrite outbox.ring.drain.1 outbox.overflow.toList = (.error error, log)) :
    outbox.stop = (.error error,
      { outbox.cancel with ring := outbox.ring.drain.2, overflow := #[], log }) := by
  rw [Outbox.stop, if_pos running, persist]
  dsimp only [cancel]
  rw [failed]

/-- A stop that cannot write to the log takes the records out of memory all the same, and changes
nothing of the log but the temporary file beside it. -/
theorem stop_of_not_rewritable (standing : outbox.Standing) (running : outbox.running = true)
    (hindered : ¬ outbox.log.Rewritable) :
    ∃ error temporary stopped, outbox.stop = (.error error, stopped) ∧
      stopped.log = outbox.log.leaving temporary ∧ stopped.running = false ∧
      stopped.ring.toList = [] ∧ stopped.overflow = #[] := by
  obtain ⟨_, emptied, _⟩ := RingBuffer.drain_eq standing.ring
  obtain ⟨error, temporary, failed⟩ := Log.rewrite_of_not_rewritable hindered
    outbox.ring.drain.1 outbox.overflow.toList
  exact ⟨error, temporary, _, stop_of_failed running failed, rfl, rfl, emptied, rfl⟩

/-- Where the temporary file cannot be written, the log and its directory stay as they are. -/
theorem stop_of_directory (standing : outbox.Standing) (running : outbox.running = true)
    (taken : outbox.log.disk.temporary = .directory) :
    outbox.stop.2.log = outbox.log ∧ (outbox.log.disk.refusesReads = false →
      outbox.stop.1 = .error (.io "the temporary file cannot be written")) := by
  obtain ⟨error, failed, reason⟩ := Log.rewrite_of_directory taken
    outbox.ring.drain.1 outbox.overflow.toList
  rw [stop_of_failed running failed]
  exact ⟨rfl, fun gives => congrArg _ (reason (standing.isOpen running) gives)⟩

end Standing

/-- A stop answers as the rewrite of its log does. -/
theorem stop_fst {outbox : Outbox α} (running : outbox.running = true) :
    outbox.stop.1 = (outbox.log.rewrite outbox.ring.drain.1 outbox.overflow.toList).1 := by
  rw [Outbox.stop, if_pos running, persist]
  dsimp only [cancel]
  cases (outbox.log.rewrite outbox.ring.drain.1 outbox.overflow.toList).1 <;> rfl

/-- Where the log has the same left to read and nothing is left in memory, nothing is lost only if
there was nothing in memory before. -/
theorem held_sublist_iff {outbox stopped : Outbox α}
    (unread : stopped.log.unread = outbox.log.unread) (drained : stopped.ring.toList = [])
    (vacant : stopped.overflow = #[]) :
    outbox.held.Sublist stopped.held ↔ outbox.ring.toList = [] ∧ outbox.overflow = #[] := by
  rw [held, held, contents, contents, unread, drained, vacant, List.nil_append, List.append_nil]
  constructor
  · intro kept
    have fewer := kept.length_le
    rw [List.length_append, List.length_append] at fewer
    refine ⟨List.eq_nil_of_length_eq_zero (by omega), ?_⟩
    exact Array.toList_eq_nil_iff.mp (List.eq_nil_of_length_eq_zero (by omega))
  · rintro ⟨none, nothing⟩
    rw [none, nothing, List.nil_append, List.append_nil]

end Outbox

/-- Whatever happened to an outbox over whatever directory, a stop fails exactly where the log cannot
be written anew: its bytes cannot be read back, or the temporary file cannot be written, or the name of
the log leads to something that it cannot replace.  Whichever it was, the log, its offset and its
unread bytes are as they were; what waited in the ring and in the overflow list is held nowhere any
more, so all records are kept exactly if none waited there; and a stop that follows reports success
and writes nothing, also over a directory that is in order again. -/
theorem failed_stop_keeps_iff (disk : Disk) (settings : DeliverySettings)
    (life : List (Incident α)) :
    let reached := (Outbox.create disk settings : Outbox α).live life
    reached.running = true →
      (reached.stop.1 = .ok () ↔ reached.log.disk.refusesReads = false ∧
        reached.log.disk.temporary ≠ .directory ∧ reached.log.disk.log ≠ .barred) ∧
      (reached.log.disk.temporary = .directory →
        reached.stop.2.log = reached.log ∧ (reached.log.disk.refusesReads = false →
          reached.stop.1 = .error (.io "the temporary file cannot be written"))) ∧
      ∀ (error : StorageError) (stopped : Outbox α), reached.stop = (.error error, stopped) →
        (∃ temporary, stopped.log = reached.log.leaving temporary) ∧
          stopped.log.unread = reached.log.unread ∧
          stopped.ring.toList = [] ∧ stopped.overflow = #[] ∧
          (reached.held.Sublist stopped.held ↔
            reached.ring.toList = [] ∧ reached.overflow = #[]) ∧
          ∀ later : Disk, (stopped.onDisk later).stop = (.ok (), stopped.onDisk later) := by
  intro reached running
  have standing : reached.Standing := (Outbox.Standing.create disk settings).live life
  have succeeds : reached.stop.1 = .ok () ↔ reached.log.Rewritable := by
    rw [Outbox.stop_fst running]
    exact Log.rewrite_ok_iff _ _
  refine ⟨succeeds.trans ⟨?_, ?_⟩, standing.stop_of_directory running, ?_⟩
  · exact fun rewritable =>
      ⟨rewritable.givesReads, rewritable.takesTemporary, rewritable.nameable⟩
  · exact fun ⟨gives, free, nameable⟩ => ⟨standing.isOpen running, gives, free, nameable⟩
  · intro error stopped failed
    have hindered : ¬ reached.log.Rewritable := fun rewritable => by
      have succeeded := succeeds.mpr rewritable
      rw [failed] at succeeded
      cases succeeded
    obtain ⟨_, temporary, _, same, log, idle, drained, vacant⟩ :=
      standing.stop_of_not_rewritable running hindered
    cases same.symm.trans failed
    have unread : stopped.log.unread = reached.log.unread := by
      rw [log]
      rfl
    -- the memory is empty now, so what is still held is what the log has not read
    refine ⟨⟨temporary, log⟩, unread, drained, vacant,
      Outbox.held_sublist_iff unread drained vacant, fun later => ?_⟩
    have still : (stopped.onDisk later).running = false := idle
    rw [Outbox.stop, still, if_neg Bool.false_ne_true]

/-- Two records fill the ring and a third one waits behind it, when the client does not take the first
one and the temporary file is barred. -/
def sampleLife : List (Incident Octets) :=
  [.start 0, .add ⟨[1]⟩ false, .add ⟨[2]⟩ false, .add ⟨[3]⟩ false,
    .turns 0 1 { afterwards := .silence }, .disturb Disk.blockTemporary]

theorem failed_stop_keeps_iff_of_sampleLife :
    ∃ stopped, ((Outbox.create {} { queueCapacity := 2 }).live sampleLife).stop =
        (.error (.io "the temporary file cannot be written"), stopped) ∧
      ¬ ((Outbox.create {} { queueCapacity := 2 }).live sampleLife).held.Sublist stopped.held ∧
      (stopped.onDisk {}).stop = (.ok (), stopped.onDisk {}) := by
  have running : ((Outbox.create {} { queueCapacity := 2 }).live sampleLife).running = true := by
    decide +kernel
  obtain ⟨_, fails, loses⟩ := failed_stop_keeps_iff {} { queueCapacity := 2 } sampleLife running
  have failed := Prod.ext_iff.mpr ⟨(fails (by decide +kernel)).2 (by decide +kernel), rfl⟩
  obtain ⟨_, _, _, _, kept, again⟩ := loses _ _ failed
  refine ⟨_, failed, fun all => ?_, again {}⟩
  have none := (kept.mp all).1
  revert none
  decide +kernel

/-- Three records are held before the stop that fails, and none after it; with the bar taken down,
another stop succeeds, and none is held still. -/
theorem failed_stop_loses_records :
    let reached := (Outbox.create {} { queueCapacity := 2 }).live sampleLife
    let stopped := reached.stop.2
    let again := (stopped.onDisk stopped.log.disk.unblockTemporary).stop
    (reached.held, reached.stop.1.toBool, stopped.held, again.1.toBool, again.2.held) =
      ([⟨[1]⟩, ⟨[2]⟩, ⟨[3]⟩], false, [], true, []) := by
  decide +kernel

end TrafficMeter.Delivery
