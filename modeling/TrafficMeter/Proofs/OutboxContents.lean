/-
Module: TrafficMeter.Proofs.OutboxContents
Purpose: What the operations of an outbox do to the records that wait in it.  They wait in the ring,
  then in the unread bytes of the log, then in the overflow list, and while new records go straight
  to the ring the other two are empty.  Every operation keeps this and the order of the records; it
  adds at the end what it takes in, whether or not the directory takes or gives anything.
Main exports: Outbox.Keeps, Outbox.contents, Outbox.Follows, Outbox.add_follows,
  Outbox.backfill_follows, Outbox.start_aside_spec, Outbox.start_spec
-/
import TrafficMeter.Delivery.Outbox
import TrafficMeter.Proofs.LogBytes
import TrafficMeter.Proofs.RingContents

namespace TrafficMeter.Delivery

open Spool

variable {α : Type} [Record α]

namespace Outbox

/-- An outbox in working order, with the records whose frames its log has not read. -/
structure Keeps (outbox : Outbox α) (waiting : List α) : Prop where
  ring : outbox.ring.Valid
  log : outbox.log.Ready
  held : Frame.Holds outbox.log.unread waiting
  fitting : ∀ record ∈ outbox.overflow.toList, Record.fits record = true
  alone : outbox.queueOnly = true → waiting = [] ∧ outbox.overflow = #[]

/-- The records in an outbox, oldest first. -/
def contents (outbox : Outbox α) (waiting : List α) : List α :=
  outbox.ring.toList ++ waiting ++ outbox.overflow.toList

/-- An outbox has gone over to the next one by taking records in at its end. -/
structure Follows (outbox : Outbox α) (waiting : List α) (taken : List α) (next : Outbox α)
    (waiting' : List α) : Prop where
  keeps : next.Keeps waiting'
  contents_eq : next.contents waiting' = outbox.contents waiting ++ taken
  oldest : outbox.ring.toList <+: next.ring.toList
  running : next.running = outbox.running
  obliging : outbox.log.disk.Obliging → next.log.disk.Obliging

/-! ### The ring -/

omit [Record α] in
/-- Items go to the ring from the front of the list until it is full. -/
theorem refill_spec {ring : RingBuffer α} (valid : ring.Valid) (records : List α) :
    (refill ring records).1.Valid ∧ ring.toList <+: (refill ring records).1.toList ∧
      (refill ring records).1.toList ++ (refill ring records).2 = ring.toList ++ records ∧
      (refill ring records).2 <:+ records := by
  induction records generalizing ring with
  | nil => exact ⟨valid, List.prefix_refl _, rfl, List.suffix_refl _⟩
  | cons record others ih =>
      cases room : ring.isFull with
      | true =>
          rw [refill, if_pos room]
          exact ⟨valid, List.prefix_refl _, rfl, List.suffix_refl _⟩
      | false =>
          obtain ⟨valid', oldest, whole, rest⟩ := ih (valid.push room record)
          have pushed := RingBuffer.toList_push valid room record
          rw [refill, if_neg (by rw [room]; exact Bool.false_ne_true)]
          refine ⟨valid', ?_, ?_, rest.trans (List.suffix_cons _ _)⟩
          · exact (pushed ▸ List.prefix_append _ _ : ring.toList <+: _).trans oldest
          · rw [whole, pushed, List.append_assoc, List.singleton_append]

/-- Records that come back from the log all go to the ring if they are no more than its free
slots. -/
theorem replay_spec {outbox : Outbox α} (valid : outbox.ring.Valid) {records : List α}
    (room : records.length ≤ outbox.ring.free) :
    ∃ ring, outbox.replay records = { outbox with ring } ∧ ring.Valid ∧
      ring.toList = outbox.ring.toList ++ records ∧ ring.capacity = outbox.ring.capacity := by
  induction records generalizing outbox with
  | nil => exact ⟨outbox.ring, rfl, valid, (List.append_nil _).symm, rfl⟩
  | cons record others ih =>
      rw [List.length_cons, valid.free_eq] at room
      have vacancy : outbox.ring.isFull = false := by
        rw [← Bool.not_eq_true, valid.isFull_iff]
        omega
      let next : Outbox α := { outbox with ring := outbox.ring.push record }
      have pushed : outbox.takeIn record true = next := by
        simp [takeIn, vacancy, next]
      have items : next.ring.toList = outbox.ring.toList ++ [record] :=
        RingBuffer.toList_push valid vacancy record
      have standing : next.ring.Valid := valid.push vacancy record
      have further : others.length ≤ next.ring.free := by
        rw [standing.free_eq, items, RingBuffer.capacity_push, List.length_append,
          List.length_singleton]
        omega
      obtain ⟨ring, replayed, valid', contents, capacity⟩ := ih standing further
      refine ⟨ring, ?_, valid', ?_, capacity.trans (RingBuffer.capacity_push _ _)⟩
      · rw [replay, List.foldl_cons, pushed]
        exact replayed
      · rw [contents, items, List.append_assoc, List.singleton_append]

/-! ### Taking records in -/

theorem Keeps.refl {outbox : Outbox α} {waiting : List α} (keeps : outbox.Keeps waiting) :
    outbox.Follows waiting [] outbox waiting :=
  ⟨keeps, (List.append_nil _).symm, List.prefix_refl _, rfl, id⟩

theorem Follows.trans {outbox next last : Outbox α} {waiting waiting' waiting'' : List α}
    {taken taken' : List α} (first : outbox.Follows waiting taken next waiting')
    (second : next.Follows waiting' taken' last waiting'') :
    outbox.Follows waiting (taken ++ taken') last waiting'' where
  keeps := second.keeps
  contents_eq := by rw [second.contents_eq, first.contents_eq, List.append_assoc]
  oldest := first.oldest.trans second.oldest
  running := second.running.trans first.running
  obliging := fun obliging => second.obliging (first.obliging obliging)

theorem Keeps.pushOverflow {outbox : Outbox α} {waiting : List α} (keeps : outbox.Keeps waiting)
    {record : α} (fits : Record.fits record = true) :
    outbox.Follows waiting [record]
      { outbox with overflow := outbox.overflow.push record, queueOnly := false } waiting := by
  refine ⟨⟨keeps.ring, keeps.log, keeps.held, ?_, ?_⟩, ?_, List.prefix_refl _, rfl, id⟩
  · intro item member
    rw [Array.toList_push] at member
    rcases List.mem_append.mp member with old | new
    · exact keeps.fitting item old
    · cases List.mem_singleton.mp new
      exact fits
  · intro only
    cases only
  · simp [contents]

/-- The overflow list goes to the log as a whole, behind what was not read. -/
theorem Keeps.spill [LawfulRecord α] {outbox : Outbox α} {waiting : List α}
    (keeps : outbox.Keeps waiting) (takes : outbox.log.disk.refusesAppends = false) :
    ∃ log, outbox.log.store outbox.overflow.toList = .ok log ∧
      outbox.Follows waiting [] { outbox with log, overflow := #[] }
        (waiting ++ outbox.overflow.toList) := by
  obtain ⟨log, succeeded, standing, content, offset, _, agrees⟩ :=
    Log.store_spec keeps.log takes outbox.overflow.toList
  have held : Frame.Holds log.unread (waiting ++ outbox.overflow.toList) := by
    rw [Log.unread_of_content_append keeps.log content offset]
    exact keeps.held.append (Frame.Holds.ofRecords_of_fits keeps.fitting)
  refine ⟨log, succeeded, ⟨keeps.ring, standing, held, List.forall_mem_nil _, ?_⟩, ?_,
    List.prefix_refl _, rfl, agrees.obliging⟩
  · intro only
    obtain ⟨rfl, vacant⟩ := keeps.alone only
    simp [vacant]
  · simp [contents]

/-- A record that is set aside waits behind all others, written to the log or not. -/
theorem setAside_follows [LawfulRecord α] {outbox : Outbox α} {waiting : List α}
    (keeps : outbox.Keeps waiting) {record : α} (fits : Record.fits record = true) :
    ∃ waiting', outbox.Follows waiting [record]
      { outbox.setAside record with queueOnly := false } waiting' := by
  have kept := keeps.pushOverflow fits
  rw [setAside]
  dsimp only
  split
  · exact ⟨waiting, kept⟩
  · cases takes : outbox.log.disk.refusesAppends with
    | true =>
        have failed : outbox.log.store (outbox.overflow.push record).toList =
            .error (.io "the log takes no further bytes") := by
          simp [Log.store, keeps.log.isOpen, takes]
        rw [failed]
        exact ⟨waiting, kept⟩
    | false =>
        obtain ⟨log, succeeded, spilt⟩ := kept.keeps.spill takes
        dsimp only at succeeded
        rw [succeeded]
        exact ⟨_, kept.trans spilt⟩

/-- A new record waits behind all others; one that fits in no frame is not taken in. -/
theorem add_follows [LawfulRecord α] {outbox : Outbox α} {waiting : List α}
    (keeps : outbox.Keeps waiting) (record : α) :
    ∃ waiting', outbox.Follows waiting ([record].filter Record.fits) (outbox.add record) waiting' := by
  by_cases fits : Record.fits record = true
  · rw [add, if_pos fits, List.filter_cons_of_pos fits, List.filter_nil, takeIn, Bool.or_false]
    split
    · next straight =>
        obtain ⟨only, free⟩ := Bool.and_eq_true_iff.mp straight
        have room : outbox.ring.isFull = false := by simpa using free
        have pushed := RingBuffer.toList_push keeps.ring room record
        obtain ⟨rfl, vacant⟩ := keeps.alone only
        refine ⟨[], ⟨keeps.ring.push room record, keeps.log, keeps.held, keeps.fitting,
          keeps.alone⟩, ?_, ?_, rfl, id⟩
        · simp [contents, pushed, vacant]
        · exact pushed ▸ List.prefix_append _ _
    · exact setAside_follows keeps fits
  · rw [add, if_neg fits, List.filter_cons_of_neg fits, List.filter_nil]
    exact ⟨waiting, keeps.refl⟩

/-! ### Records that come back from the log -/

omit [Record α] in
theorem logIsDrained_iff {outbox : Outbox α} (ready : outbox.log.Ready) :
    outbox.logIsDrained = true ↔ outbox.log.unread = [] := by
  rw [logIsDrained, ready.pending_eq]
  cases outbox.log.unread with
  | nil => exact iff_of_true rfl rfl
  | cons octet others => exact iff_of_false Bool.false_ne_true (List.cons_ne_nil _ _)

/-- What is loaded in order to fill the ring goes there, in front of what stays in the log. -/
theorem Keeps.reload {outbox : Outbox α} {waiting : List α} (keeps : outbox.Keeps waiting)
    (gives : outbox.log.disk.refusesReads = false) (vacant : outbox.ring.free ≠ 0) :
    ∃ log ring, outbox.log.load outbox.ring.free = .ok (waiting.take outbox.ring.free, log) ∧
      ({ outbox with log }.replay (waiting.take outbox.ring.free) = { outbox with log, ring }) ∧
      ring.toList = outbox.ring.toList ++ waiting.take outbox.ring.free ∧
      ring.capacity = outbox.ring.capacity ∧
      outbox.Follows waiting [] { outbox with log, ring } (waiting.drop outbox.ring.free) := by
  obtain ⟨log, loaded, standing, held, obliging⟩ := Log.load_held keeps.log gives vacant keeps.held
  let moved : Outbox α := { outbox with log }
  have valid : moved.ring.Valid := keeps.ring
  obtain ⟨ring, replayed, valid', items, capacity⟩ :=
    replay_spec valid (List.length_take_le outbox.ring.free waiting)
  refine ⟨log, ring, loaded, replayed, items, capacity, ⟨valid', standing, held, keeps.fitting, ?_⟩,
    ?_, items ▸ List.prefix_append _ _, rfl, obliging⟩
  · intro only
    obtain ⟨rfl, vacant⟩ := keeps.alone only
    exact ⟨List.drop_nil, vacant⟩
  · rw [contents, items, List.append_assoc, List.append_assoc, List.append_nil, contents,
      List.append_assoc, ← List.append_assoc (waiting.take _), List.take_append_drop]

/-- Once the log was read to its end, the overflow list is next. -/
theorem Keeps.refillOverflow {outbox : Outbox α} (keeps : outbox.Keeps []) :
    outbox.Follows [] []
      { outbox with
        ring := (refill outbox.ring outbox.overflow.toList).1
        overflow := (refill outbox.ring outbox.overflow.toList).2.toArray
        queueOnly := (refill outbox.ring outbox.overflow.toList).2.isEmpty || outbox.queueOnly }
      [] := by
  obtain ⟨valid, oldest, whole, rest⟩ := refill_spec keeps.ring outbox.overflow.toList
  refine ⟨⟨valid, keeps.log, keeps.held, ?_, ?_⟩, ?_, oldest, rfl, id⟩
  · intro record member
    rw [List.toList_toArray] at member
    exact keeps.fitting record (rest.subset member)
  · intro only
    refine ⟨rfl, ?_⟩
    rcases Bool.or_eq_true_iff.mp only with none | before
    · rw [List.isEmpty_iff.mp none]
    · -- the mode was kept, so there was no overflow before either
      have vacant := (keeps.alone before).2
      rw [vacant] at rest ⊢
      rw [List.suffix_nil.mp rest]
  · simp only [contents, List.append_nil, whole]

/-- Filling free slots moves records forward, and none past another. -/
theorem backfill_follows {outbox : Outbox α} {waiting : List α} (keeps : outbox.Keeps waiting) :
    ∃ waiting', outbox.Follows waiting [] outbox.backfill waiting' := by
  by_cases full : outbox.ring.free = 0
  · rw [backfill, if_pos full]
    exact ⟨waiting, keeps.refl⟩
  rw [backfill, if_neg full]
  cases gives : outbox.log.disk.refusesReads with
  | true =>
      obtain ⟨error, failed⟩ := Log.load_of_refusesReads (α := α) keeps.log gives full
      rw [failed]
      exact ⟨waiting, keeps.refl⟩
  | false =>
      obtain ⟨log, ring, loaded, replayed, _, _, follows⟩ := keeps.reload gives full
      rw [loaded]
      dsimp only
      rw [replayed]
      split
      · exact ⟨_, follows⟩
      · next drained =>
          rw [Bool.not_eq_true', Bool.not_eq_false, logIsDrained_iff follows.keeps.log] at drained
          have read : waiting.drop outbox.ring.free = [] :=
            follows.keeps.held.bytes_eq_nil_iff.mp drained
          rw [read] at follows
          exact ⟨[], follows.trans follows.keeps.refillOverflow⟩

/-! ### Starting -/

/-- An outbox whose log was read to its end may take new records straight to the ring. -/
theorem Keeps.enter {outbox : Outbox α} {waiting : List α} (keeps : outbox.Keeps waiting)
    (vacant : outbox.overflow = #[]) (courier : Courier) :
    { outbox with
      queueOnly := outbox.logIsDrained && decide (0 < outbox.ring.free) || outbox.queueOnly
      courier : Outbox α }.Keeps waiting := by
  refine ⟨keeps.ring, keeps.log, keeps.held, keeps.fitting, ?_⟩
  intro only
  rcases Bool.or_eq_true_iff.mp only with entered | before
  · have drained := (logIsDrained_iff keeps.log).mp (Bool.and_eq_true_iff.mp entered).1
    exact ⟨keeps.held.bytes_eq_nil_iff.mp drained, vacant⟩
  · exact keeps.alone before

/-- A start in two steps: the records that the log gives back are taken in, and then the loop and,
where it may, the direct way to the ring are opened. -/
theorem start_of_open {outbox replayed : Outbox α} {opened : Log} (idle : outbox.running = false)
    (succeeded : outbox.log.open = .ok opened)
    (found : (match opened.load (α := α) outbox.ring.free with
      | .ok (records, log) => { outbox with log, running := true }.replay records
      | .error _ => { outbox with log := opened, running := true }) = replayed)
    (active : replayed.cancelled = false) (moment : Nat) :
    outbox.start moment = .ok { replayed with
      queueOnly := replayed.logIsDrained && decide (0 < replayed.ring.free) || replayed.queueOnly
      courier := .due moment } := by
  rw [start, idle, if_neg Bool.false_ne_true, succeeded]
  cases loaded : opened.load (α := α) outbox.ring.free with
  | ok read =>
      rw [loaded] at found
      subst found
      simp only [loaded, active, Bool.false_eq_true, if_false]
  | error error =>
      rw [loaded] at found
      subst found
      dsimp only at active
      simp only [loaded, active, Bool.false_eq_true, if_false]

/-- A fresh outbox with its log opened holds what the unread bytes of the directory hold, in front of
what was set aside before. -/
theorem opened_keeps {disk : Disk} (sound : disk.Sound) (openable : disk.Openable)
    {backlog : List α} (held : Frame.Holds disk.unread backlog) (settings : DeliverySettings)
    {aside : Array α} (fitting : ∀ record ∈ aside.toList, Record.fits record = true) :
    ∃ opened, (create disk settings : Outbox α).log.open = .ok opened ∧
      { (create disk settings : Outbox α) with
        overflow := aside, log := opened, running := true }.Keeps backlog ∧
      disk.AgreesBeside opened.disk := by
  have closed : (create disk settings : Outbox α).log.isOpen = false := rfl
  obtain ⟨opened, succeeded, ready, unread, _, _, agrees⟩ :=
    Log.open_spec closed sound openable held
  refine ⟨opened, succeeded, ?_, agrees⟩
  refine ⟨RingBuffer.valid_empty _, ready, unread ▸ held, fitting, ?_⟩
  intro only
  cases only

/-- Nothing but the direct way to the ring can be wrong with an outbox that would be in working order
without it. -/
theorem Keeps.direct {outbox : Outbox α} {waiting : List α}
    (keeps : { outbox with queueOnly := false }.Keeps waiting)
    (alone : outbox.queueOnly = true → waiting = [] ∧ outbox.overflow = #[]) :
    outbox.Keeps waiting :=
  ⟨keeps.ring, keeps.log, keeps.held, keeps.fitting, alone⟩

/-- Where the log can be read, a fresh outbox starts with its oldest records in the ring, whatever
was set aside before, and opens the direct way to the ring if there is room left. -/
theorem start_aside_spec {disk : Disk} (sound : disk.Sound) (nameable : disk.log ≠ .barred)
    (gives : disk.refusesReads = false) {backlog : List α}
    (held : Frame.Holds disk.unread backlog) (settings : DeliverySettings) {aside : Array α}
    (fitting : ∀ record ∈ aside.toList, Record.fits record = true) (moment : Nat) :
    ∃ started,
      ({ create disk settings with overflow := aside } : Outbox α).start moment = .ok started ∧
      { started with queueOnly := false }.Keeps (backlog.drop (max settings.queueCapacity 1)) ∧
      started.ring.toList = backlog.take (max settings.queueCapacity 1) ∧
      started.ring.capacity = max settings.queueCapacity 1 ∧
      started.overflow = aside ∧ started.running = true ∧
      (disk.Obliging → started.log.disk.Obliging) ∧
      (started.queueOnly = true ↔ backlog.length < max settings.queueCapacity 1) := by
  let fresh : Outbox α := { create disk settings with overflow := aside }
  have idle : fresh.running = false := rfl
  obtain ⟨opened, succeeded, keeps, agrees⟩ :=
    opened_keeps sound (Disk.openable_of_reads nameable gives) held settings fitting
  have free : fresh.ring.free = max settings.queueCapacity 1 := RingBuffer.capacity_empty _
  have vacant : fresh.ring.free ≠ 0 := by
    rw [free]
    omega
  obtain ⟨log, ring, loaded, same, items, capacity, follows⟩ :=
    keeps.reload (agrees.refusesReads.trans gives) vacant
  let replayed : Outbox α := { fresh with log, ring, running := true }
  have standing : replayed.Keeps (backlog.drop (max settings.queueCapacity 1)) :=
    free ▸ follows.keeps
  have queued : ring.toList = backlog.take (max settings.queueCapacity 1) := free ▸ items
  have starts : fresh.start moment = .ok { replayed with
      queueOnly := replayed.logIsDrained && decide (0 < replayed.ring.free) || replayed.queueOnly
      courier := .due moment } :=
    start_of_open idle succeeded (by rw [loaded]; exact same) rfl moment
  refine ⟨_, starts, ⟨standing.ring, standing.log, standing.held, standing.fitting, standing.alone⟩,
    queued, capacity.trans (RingBuffer.capacity_empty _), rfl, rfl,
    fun obliging => follows.obliging (agrees.obliging obliging), ?_⟩
  -- nothing left to load and room left in the ring, which together is that the backlog is shorter
  show (replayed.logIsDrained && _ || false) = true ↔ _
  rw [Bool.or_false, Bool.and_eq_true, decide_eq_true_iff, logIsDrained_iff standing.log,
    standing.held.bytes_eq_nil_iff, List.drop_eq_nil_iff, standing.ring.free_eq, queued,
    List.length_take, capacity.trans (RingBuffer.capacity_empty _)]
  omega

/-- An outbox that does not run yet can be started exactly if its log can be opened. -/
theorem exists_start_iff {outbox : Outbox α} (idle : outbox.running = false) (moment : Nat) :
    (∃ started, outbox.start moment = .ok started) ↔ ∃ opened, outbox.log.open = .ok opened := by
  rw [start, idle, if_neg Bool.false_ne_true]
  cases outbox.log.open with
  | ok opened => exact iff_of_true ⟨_, rfl⟩ ⟨_, rfl⟩
  | error error =>
      exact iff_of_false (fun ⟨_, succeeded⟩ => nomatch succeeded) fun ⟨_, found⟩ => nomatch found

/-- A fresh outbox can be started exactly over a directory whose log can be opened. -/
theorem exists_start_create_iff {disk : Disk} (sound : disk.Sound) (settings : DeliverySettings)
    (moment : Nat) :
    (∃ started, (create disk settings : Outbox α).start moment = .ok started) ↔ disk.Openable :=
  (exists_start_iff rfl moment).trans (Log.exists_open_iff rfl sound)

/-- A fresh outbox starts where the log can be opened and its unread bytes are whole frames, and holds
what they hold.  Where they can be read, the oldest records fill the ring, and new ones go there straight
if there is room left. -/
theorem start_spec {disk : Disk} (sound : disk.Sound) (openable : disk.Openable)
    {backlog : List α} (held : Frame.Holds disk.unread backlog) (settings : DeliverySettings)
    (moment : Nat) :
    ∃ started waiting, (create disk settings : Outbox α).start moment = .ok started ∧
      started.Keeps waiting ∧ started.contents waiting = backlog ∧ started.running = true ∧
      (disk.Obliging → started.log.disk.Obliging) ∧
      (disk.refusesReads = false →
        started.ring.toList = backlog.take (max settings.queueCapacity 1) ∧
        waiting = backlog.drop (max settings.queueCapacity 1) ∧
        (started.queueOnly = true ↔ backlog.length < max settings.queueCapacity 1)) := by
  have none : ∀ record ∈ (#[] : Array α).toList, Record.fits record = true := List.forall_mem_nil _
  cases gives : disk.refusesReads with
  | true =>
      let fresh : Outbox α := create disk settings
      have idle : fresh.running = false := rfl
      obtain ⟨opened, succeeded, keeps, agrees⟩ := opened_keeps sound openable held settings none
      have free : fresh.ring.free = max settings.queueCapacity 1 := RingBuffer.capacity_empty _
      have vacant : fresh.ring.free ≠ 0 := by
        rw [free]
        omega
      obtain ⟨error, failed⟩ := Log.load_of_refusesReads (α := α) keeps.log
        (agrees.refusesReads.trans gives) vacant
      refine ⟨_, backlog, start_of_open idle succeeded (by rw [failed]; rfl) rfl moment,
        keeps.enter rfl (.due moment), List.append_nil backlog, rfl, agrees.obliging, ?_⟩
      intro readable
      cases readable
  | false =>
      obtain ⟨started, succeeded, keeps, items, _, vacant, running, obliging, direct⟩ :=
        start_aside_spec sound openable.nameable gives held settings none moment
      refine ⟨started, _, succeeded, keeps.direct fun only => ⟨?_, vacant⟩, ?_, running, obliging,
        fun _ => ⟨items, rfl, direct⟩⟩
      · exact List.drop_eq_nil_of_le (Nat.le_of_lt (direct.mp only))
      · rw [contents, items, vacant, List.take_append_drop]
        exact List.append_nil backlog

/-! ### Stopping -/

/-- A stop writes the ring in front of what was not read and the overflow list behind it, and the
log is read from its beginning again. -/
theorem stop_spec {outbox : Outbox α} {waiting : List α} (keeps : outbox.Keeps waiting)
    (running : outbox.running = true) (obliging : outbox.log.disk.Obliging) :
    ∃ stopped, outbox.stop = (.ok (), stopped) ∧ stopped.log.disk.Sound ∧
      stopped.log.disk.log ≠ .barred ∧ stopped.log.disk.Obliging ∧
      stopped.log.disk.storedOffset = 0 ∧
      stopped.log.disk.logContent = Frame.ofRecords outbox.ring.toList ++ outbox.log.unread ++
        Frame.ofRecords outbox.overflow.toList := by
  obtain ⟨queued, _⟩ := RingBuffer.drain_eq keeps.ring
  obtain ⟨written, succeeded, ready, content, _, _, persisted⟩ :=
    Log.rewrite_spec keeps.log obliging.givesReads obliging.takesTemporary outbox.ring.toList
      outbox.overflow.toList
  obtain ⟨obliging', offset⟩ := persisted obliging
  have stops : ∃ stopped, outbox.stop = (.ok (), stopped) ∧ stopped.log = written.close := by
    rw [stop, if_pos running, persist]
    dsimp only [cancel]
    rw [queued, succeeded]
    exact ⟨_, rfl, rfl⟩
  obtain ⟨stopped, result, log⟩ := stops
  have disk : stopped.log.disk = written.disk := by
    rw [log]
    rfl
  refine ⟨stopped, result, ?_⟩
  rw [disk, ← ready.content_eq]
  exact ⟨ready.sound, ready.nameable, obliging', offset, content⟩

end Outbox

end TrafficMeter.Delivery
