/-
Module: TrafficMeter.Proofs.CrashDelivery
Purpose: What is delivered when the process of an outbox dies, and another outbox comes to the
  directory.  A record that was written to the log waits there until it is loaded into the ring, and
  with that the offset file counts it as read.  So the next outbox delivers the records that were not
  loaded, all of them and nothing else; those loaded and not settled are lost.
Main exports: Audit, Audit.step, Audit.Books, Audit.Books.step, Audit.Books.restart,
  delivery_after_crash, crash_loses_loaded_record
-/
import TrafficMeter.Proofs.BacklogDraining
import TrafficMeter.Proofs.LogRefinement

namespace TrafficMeter.Spool

variable {α : Type} [Record α]

/-! ### Records among bytes -/

/-- The records of the whole frames that bytes begin with. -/
def Frame.recordsIn (bytes : Bytes) : List α :=
  (Log.Reading.ofBytes bytes.length bytes).records

/-- Each record takes up at least a byte. -/
theorem Frame.Holds.length_le {bytes : Bytes} {records : List α}
    (held : Frame.Holds bytes records) : records.length ≤ bytes.length := by
  induction held with
  | nil => exact Nat.le_refl _
  | cons short decoded tail ih =>
      rw [List.length_cons, List.length_append, length_ofPayload, headerLength]
      omega

theorem Frame.Holds.recordsIn_eq {bytes : Bytes} {records : List α}
    (held : Frame.Holds bytes records) : Frame.recordsIn bytes = records := by
  obtain ⟨_, _, _, read, _⟩ := held.ofBytes_eq bytes.length
  rw [recordsIn, read, List.take_of_length_le held.length_le]

namespace Log

/-- The records whose frames came behind the unread bytes of a log. -/
def gained (before after : Log) : List α :=
  Frame.recordsIn (after.unread.drop before.unread.length)

/-- The records whose frames were read since. -/
def given (before after : Log) : List α :=
  Frame.recordsIn (before.unread.take (before.unread.length - after.unread.length))

/-- A log that has grown by whole frames has gained their records and given none away. -/
theorem gained_of_append {before after : Log} {bytes : Bytes} {records : List α}
    (grown : after.unread = before.unread ++ bytes) (held : Frame.Holds bytes records) :
    gained before after = records ∧ given before after = ([] : List α) := by
  constructor
  · rw [gained, grown, List.drop_left, held.recordsIn_eq]
  · rw [given, grown, List.length_append, Nat.sub_eq_zero_of_le (Nat.le_add_right _ _),
      List.take_zero]
    rfl

/-- An untouched log has neither gained nor given. -/
theorem gained_of_same {before after : Log} (same : after.unread = before.unread) :
    gained before after = ([] : List α) ∧ given before after = ([] : List α) :=
  gained_of_append (same.trans (List.append_nil _).symm) .nil

/-- A log read on over whole frames has given their records away and gained none. -/
theorem given_of_append {before after : Log} {front : Bytes} {records : List α}
    (read : before.unread = front ++ after.unread) (held : Frame.Holds front records) :
    gained before after = ([] : List α) ∧ given before after = records := by
  constructor
  · rw [gained, read, List.drop_eq_nil_of_le (by simp)]
    rfl
  · rw [given, read, List.length_append, Nat.add_sub_cancel_right, List.take_left,
      held.recordsIn_eq]

/-- Loading reads the frames of the records that it gives, and notes in the offset file that they
are read. -/
theorem load_front {log : Log} (ready : log.Ready) (obliging : log.disk.Obliging) {limit : Nat}
    (positive : limit ≠ 0) {records : List α} (held : Frame.Holds log.unread records) :
    ∃ front moved, log.load limit = .ok (records.take limit, moved) ∧
      log.unread = front ++ moved.unread ∧ Frame.Holds front (records.take limit) ∧
      (log.content.length < Bytes.bound 8 → log.disk.storedOffset = log.offset →
        moved.disk.storedOffset = moved.offset) := by
  obtain ⟨front, back, whole, first, others⟩ := held.split limit
  have read := first.ofBytes_of_split others (Frame.Holds.take_enough records limit)
  rw [← whole] at read
  obtain ⟨moved, loaded, _, unread, _, persisted⟩ :=
    load_spec ready obliging.givesReads positive read
  refine ⟨front, moved, loaded, ?_, first, (persisted obliging).2⟩
  rw [unread, whole, List.drop_left]

end Log

end TrafficMeter.Spool

namespace TrafficMeter.Delivery

open Spool

variable {α : Type} [Record α]

/-! ### The log of an outbox -/

namespace Outbox

variable {outbox : Outbox α} {waiting : List α}

/-- A record that is added stays in memory, or goes to the log behind all that is there, with those
in front of it. -/
theorem Keeps.add_log [LawfulRecord α] (keeps : outbox.Keeps waiting)
    (takes : outbox.log.disk.refusesAppends = false) (record : α) :
    ∃ spilt : List α, Frame.Holds (Frame.ofRecords spilt) spilt ∧
      (outbox.add record).log.unread = outbox.log.unread ++ Frame.ofRecords spilt ∧
      (outbox.add record).log.offset = outbox.log.offset ∧
      (outbox.add record).log.disk.storedOffset = outbox.log.disk.storedOffset := by
  have nothing : ∃ spilt : List α, Frame.Holds (Frame.ofRecords spilt) spilt ∧
      outbox.log.unread = outbox.log.unread ++ Frame.ofRecords spilt ∧
      outbox.log.offset = outbox.log.offset ∧
      outbox.log.disk.storedOffset = outbox.log.disk.storedOffset :=
    ⟨[], .nil, (List.append_nil _).symm, rfl, rfl⟩
  by_cases fits : Record.fits record = true
  · rw [add, if_pos fits, takeIn]
    split
    · exact nothing
    · dsimp only
      rw [setAside]
      dsimp only
      split
      · exact nothing
      · have all := (keeps.pushOverflow fits).keeps.fitting
        obtain ⟨log, stored, _, content, offset, _, agrees⟩ :=
          Log.store_spec keeps.log takes (outbox.overflow.push record).toList
        rw [stored]
        exact ⟨_, .ofRecords_of_fits all, Log.unread_of_content_append keeps.log content offset,
          offset, agrees.storedOffset_eq⟩
  · rw [add, if_neg fits]
    exact nothing

/-- A backfill brings the oldest records of the log to an empty ring, and notes that they are
read. -/
theorem Keeps.backfill_log (keeps : outbox.Keeps waiting) (obliging : outbox.log.disk.Obliging)
    (spent : outbox.ring.toList = []) :
    ∃ front replayed rest, waiting = replayed ++ rest ∧
      outbox.log.unread = front ++ outbox.backfill.log.unread ∧ Frame.Holds front replayed ∧
      outbox.Follows waiting [] outbox.backfill rest ∧
      replayed <+: outbox.backfill.ring.toList ∧
      (outbox.log.content.length < Bytes.bound 8 →
        outbox.log.disk.storedOffset = outbox.log.offset →
        outbox.backfill.log.disk.storedOffset = outbox.backfill.log.offset) := by
  have vacant := keeps.ring.free_ne_zero spent
  obtain ⟨log, loaded, same, follows, filled, _⟩ :=
    keeps.backfill_spec obliging.givesReads vacant
  obtain ⟨front, moved, loaded', read, first, persisted⟩ :=
    Log.load_front keeps.log obliging vacant keeps.held
  cases loaded.symm.trans loaded'
  rw [spent] at filled
  rw [same]
  exact ⟨front, _, _, (List.take_append_drop _ waiting).symm, read, first, follows, filled,
    persisted⟩

/-- A start leaves the offset of its log in the offset file, if it found one there that does not lie
behind the end of the log. -/
theorem start_stored {disk : Disk} (sound : disk.Sound) (openable : disk.Openable)
    (obliging : disk.Obliging) (inside : disk.storedOffset ≤ disk.logContent.length)
    (small : disk.logContent.length < Bytes.bound 8) {backlog : List α}
    (held : Frame.Holds disk.unread backlog) {settings : DeliverySettings} {moment : Nat}
    {started : Outbox α}
    (succeeded : (create disk settings : Outbox α).start moment = .ok started) :
    started.log.disk.storedOffset = started.log.offset := by
  let fresh : Outbox α := create disk settings
  have closed : fresh.log.isOpen = false := rfl
  obtain ⟨opened, opens, _, content, _, offset, _, agrees⟩ :=
    Log.open_cuts closed sound openable
  obtain ⟨opened', opens', keeps, _⟩ :=
    opened_keeps sound openable held settings (List.forall_mem_nil _ : ∀ record ∈ #[].toList, _)
  cases opens.symm.trans opens'
  have entry : disk.entryOffset = disk.storedOffset := if_neg (Nat.not_lt_of_le inside)
  have stored : opened.disk.storedOffset = opened.offset :=
    agrees.storedOffset_eq.trans (entry.symm.trans offset.symm)
  have uncut : opened.content = disk.logContent := by
    rw [content]
    show _ ++ Frame.wholePart disk.unread = _
    rw [held.wholePart_eq]
    exact List.take_append_drop _ _
  have vacant : fresh.ring.free ≠ 0 := by
    have free : fresh.ring.free = max settings.queueCapacity 1 := RingBuffer.capacity_empty _
    omega
  have gives : opened.disk.Obliging := agrees.obliging obliging
  obtain ⟨log, ring, loads, replays, _⟩ := keeps.reload gives.givesReads vacant
  obtain ⟨_, moved, loads', _, _, persisted⟩ :=
    Log.load_front keeps.log gives vacant keeps.held
  -- one load under two specifications: the first says what is replayed, the second what is stored
  cases loads.symm.trans loads'
  let replayed : Outbox α := { fresh with log, ring, running := true }
  have starts : fresh.start moment = .ok { replayed with
      queueOnly := replayed.logIsDrained && decide (0 < replayed.ring.free) || replayed.queueOnly
      courier := .due moment } :=
    start_of_open rfl opens (by rw [loads]; exact replays) rfl moment
  cases starts.symm.trans succeeded
  exact persisted (uncut ▸ small) stored

end Outbox

/-! ### The ring and what is settled -/

namespace Shipping

variable {shipping : Shipping α} {waiting came : List α}

/-- An offer with an empty ring fills it, and any other leaves the outbox as it is. -/
theorem step_offer (shipping : Shipping α) (valid : shipping.outbox.ring.Valid) :
    shipping.outbox.ring.toList = [] ∧
        shipping.step .offer = { shipping with outbox := shipping.outbox.backfill } ∨
      (shipping.step .offer).outbox = shipping.outbox ∧
        (shipping.step .offer).settled = shipping.settled := by
  have oldest := RingBuffer.peek?_eq valid
  rw [step]
  cases offered : shipping.offered with
  | some record => exact .inr ⟨rfl, rfl⟩
  | none =>
      cases items : shipping.outbox.ring.toList with
      | nil =>
          rw [items] at oldest
          rw [oldest]
          exact .inl ⟨rfl, rfl⟩
      | cons record younger =>
          rw [items] at oldest
          rw [oldest]
          exact .inr ⟨rfl, rfl⟩

/-- What an answer settles is what leaves the ring. -/
theorem Ledger.answer_left (ledger : shipping.Ledger waiting came) (answer : Answer) :
    ∃ settled, (shipping.step (.answer answer)).settled = shipping.settled ++ settled ∧
      shipping.outbox.ring.toList =
        settled ++ (shipping.step (.answer answer)).outbox.ring.toList := by
  rw [Shipping.step]
  cases offered : shipping.offered with
  | none => exact ⟨[], (List.append_nil _).symm, rfl⟩
  | some record =>
      refine ⟨_, rfl, ?_⟩
      rw [settle_eq]
      split
      · dsimp only
        rw [RingBuffer.toList_dropHead ledger.keeps.ring]
        obtain ⟨younger, items⟩ := List.head?_eq_some_iff.mp (ledger.oldest record offered)
        rw [items]
        rfl
      · rfl

end Shipping

/-! ### Bookkeeping -/

/-- An outbox at work, and what its log took and gave so far. -/
structure Audit (α : Type) where
  shipping : Shipping α
  /-- the records that were written to the log, in order -/
  written : List α
  /-- those of them that were loaded into the ring and are not settled, in order -/
  loaded : List α

namespace Audit

/-- An outbox that was started over a directory, with the first records of the log in its ring. -/
def begin (disk : Disk) (started : Outbox α) : Audit α where
  shipping := ⟨started, none, []⟩
  written := Frame.recordsIn disk.unread
  loaded := started.ring.toList

/-- Records are settled in the order in which they were loaded. -/
def step (audit : Audit α) (event : Event α) : Audit α :=
  let next := audit.shipping.step event
  let settled := next.settled.length - audit.shipping.settled.length
  { shipping := next
    written := audit.written ++ Log.gained audit.shipping.outbox.log next.outbox.log
    loaded := audit.loaded.drop settled ++
      Log.given audit.shipping.outbox.log next.outbox.log }

def after (audit : Audit α) (course : List (Event α)) : Audit α :=
  course.foldl step audit

theorem shipping_after (audit : Audit α) (course : List (Event α)) :
    (audit.after course).shipping = audit.shipping.after course := by
  induction course generalizing audit with
  | nil => rfl
  | cons event later ih => exact ih (audit.step event)

/-- What was written is partly settled, partly loaded into the ring, and otherwise unread; and the
offset file says what is unread. -/
structure Books (audit : Audit α) (waiting came : List α) : Prop where
  ledger : audit.shipping.Ledger waiting came
  obliging : audit.shipping.outbox.log.disk.Obliging
  stored : audit.shipping.outbox.log.disk.storedOffset = audit.shipping.outbox.log.offset
  oldest : audit.loaded <+: audit.shipping.outbox.ring.toList
  balance : ∃ gone, audit.written = gone ++ audit.loaded ++ waiting ∧
    gone.Sublist audit.shipping.settled

/-- The books open on a start over the disk's backlog: nothing written yet, and what the start
loaded is in the ring. -/
theorem Books.begin {disk : Disk} (sound : disk.Sound) (nameable : disk.log ≠ .barred)
    (obliging : disk.Obliging) (inside : disk.storedOffset ≤ disk.logContent.length)
    (small : disk.logContent.length < Bytes.bound 8) {backlog : List α}
    (held : Frame.Holds disk.unread backlog) (settings : DeliverySettings) (moment : Nat) :
    ∃ started waiting, (Outbox.create disk settings : Outbox α).start moment = .ok started ∧
      (Audit.begin disk started).Books waiting backlog := by
  have openable := obliging.openable nameable
  obtain ⟨started, waiting, succeeded, keeps, contents, running, obliges, found⟩ :=
    Outbox.start_spec sound openable held settings moment
  obtain ⟨oldest, rest, _⟩ := found obliging.givesReads
  refine ⟨started, waiting, succeeded, .of_keeps keeps running contents, obliges obliging,
    Outbox.start_stored sound openable obliging inside small held succeeded, List.prefix_refl _, ?_⟩
  refine ⟨[], ?_, List.Sublist.refl _⟩
  rw [Audit.begin, held.recordsIn_eq, oldest, rest, List.nil_append, List.take_append_drop]

variable {audit : Audit α} {waiting came : List α}

/-- One entry in the books, from what an event did to the shipping and to the log. -/
theorem step_eq {event : Event α} {next : Shipping α} {settled gained given : List α}
    (reached : audit.shipping.step event = next)
    (further : next.settled = audit.shipping.settled ++ settled)
    (passed : Log.gained audit.shipping.outbox.log next.outbox.log = gained ∧
      Log.given audit.shipping.outbox.log next.outbox.log = given) :
    audit.step event =
      ⟨next, audit.written ++ gained, audit.loaded.drop settled.length ++ given⟩ := by
  obtain ⟨rfl, rfl⟩ := passed
  rw [step, reached, further, List.length_append, Nat.add_sub_cancel_left]

/-- What is added may be written to the log, behind what is there. -/
theorem Books.add [LawfulRecord α] (books : audit.Books waiting came) (record : α) :
    ∃ waiting', (audit.step (.add record)).Books waiting'
      (came ++ (Event.add record).admitted) := by
  have keeps := books.ledger.keeps
  obtain ⟨waiting', follows⟩ := Outbox.add_follows keeps record
  obtain ⟨spilt, held, unread, offset, stored⟩ :=
    keeps.add_log books.obliging.takesAppends record
  have grown : waiting' = waiting ++ spilt :=
    follows.keeps.held.unique (unread ▸ keeps.held.append held)
  obtain ⟨gone, balance, sublist⟩ := books.balance
  let next : Shipping α := { audit.shipping with outbox := audit.shipping.outbox.add record }
  have reached : audit.shipping.step (.add record) = next := rfl
  rw [step_eq reached (List.append_nil _).symm (Log.gained_of_append unread held), List.append_nil]
  refine ⟨waiting', books.ledger.follow follows, follows.obliging books.obliging, ?_, ?_, gone, ?_,
    sublist⟩
  · exact stored.trans (books.stored.trans offset.symm)
  · exact books.oldest.trans follows.oldest
  · show audit.written ++ spilt = gone ++ audit.loaded ++ waiting'
    rw [balance, grown, List.append_assoc _ waiting]

/-- Where the log stays as it is, what is settled leaves the ring, and what was loaded leaves it
first. -/
theorem Books.settle (books : audit.Books waiting came) {event : Event α} {settled : List α}
    (log : (audit.shipping.step event).outbox.log = audit.shipping.outbox.log)
    (further : (audit.shipping.step event).settled = audit.shipping.settled ++ settled)
    (left : audit.shipping.outbox.ring.toList =
      settled ++ (audit.shipping.step event).outbox.ring.toList)
    (ledger : (audit.shipping.step event).Ledger waiting came) :
    (audit.step event).Books waiting came := by
  obtain ⟨gone, balance, sublist⟩ := books.balance
  have oldest := books.oldest
  rw [left] at oldest
  have first := oldest.take settled.length
  have later := oldest.drop settled.length
  rw [List.take_left] at first
  rw [List.drop_left] at later
  rw [step_eq rfl further (Log.gained_of_same (congrArg Log.unread log)), List.append_nil,
    List.append_nil]
  refine ⟨ledger, log ▸ books.obliging, log ▸ books.stored, later,
    gone ++ audit.loaded.take settled.length, ?_, ?_⟩
  · rw [List.append_assoc gone, List.take_append_drop]
    exact balance
  · rw [further]
    exact sublist.append first.sublist

/-- What is loaded comes to a ring in which nothing is left that was loaded before. -/
theorem Books.offer [LawfulRecord α] (books : audit.Books waiting came)
    (small : audit.shipping.outbox.log.content.length < Bytes.bound 8) :
    ∃ waiting', (audit.step .offer).Books waiting' came := by
  rcases audit.shipping.step_offer books.ledger.keeps.ring with ⟨spent, reached⟩ | ⟨same, none⟩
  · obtain ⟨front, loaded, rest, whole, unread, held, follows, placed, stored⟩ :=
      books.ledger.keeps.backfill_log books.obliging spent
    obtain ⟨gone, balance, sublist⟩ := books.balance
    have before : audit.loaded = [] := List.prefix_nil.mp (spent ▸ books.oldest)
    have ledger := books.ledger.follow follows
    rw [List.append_nil] at ledger
    rw [step_eq reached (List.append_nil _).symm (Log.given_of_append unread held), before]
    refine ⟨rest, ledger, follows.obliging books.obliging, stored small books.stored, placed, gone,
      ?_, sublist⟩
    rw [balance, before, whole]
    simp
  · obtain ⟨waiting', ledger, _⟩ := books.ledger.step .offer
    have kept : waiting' = waiting :=
      ledger.keeps.held.unique (same ▸ books.ledger.keeps.held)
    rw [Event.admitted, List.append_nil, kept] at ledger
    have further := none.trans (List.append_nil _).symm
    exact ⟨waiting, books.settle (congrArg Outbox.log same) further (by rw [same]; rfl) ledger⟩

/-- What an answer settles is the first of what was loaded, if anything of that is left. -/
theorem Books.answer (books : audit.Books waiting came) (answer : Answer) :
    (audit.step (.answer answer)).Books waiting came := by
  obtain ⟨settled, further, left⟩ := books.ledger.answer_left answer
  exact books.settle (audit.shipping.answer_log answer) further left (books.ledger.answer answer)

/-- Every event is booked: what it admits, what it writes to the log, what it loads and what it
settles. -/
theorem Books.step [LawfulRecord α] (books : audit.Books waiting came) {event : Event α}
    (quiet : event.isQuiet = true)
    (small : audit.shipping.outbox.log.content.length < Bytes.bound 8) :
    ∃ waiting', (audit.step event).Books waiting' (came ++ event.admitted) := by
  cases event with
  | add record => exact books.add record
  | offer =>
      rw [Event.admitted, List.append_nil]
      exact books.offer small
  | answer answer =>
      rw [Event.admitted, List.append_nil]
      exact ⟨waiting, books.answer answer⟩
  | disturb around => exact absurd quiet Bool.false_ne_true

/-- The books balance after every course of events on a disk that is left alone. -/
theorem Books.after [LawfulRecord α] (books : audit.Books waiting came) {course : List (Event α)}
    (quiet : ∀ event ∈ course, event.isQuiet = true)
    (small : ∀ earlier, earlier <+: course →
      (audit.shipping.after earlier).outbox.log.content.length < Bytes.bound 8) :
    ∃ waiting', (audit.after course).Books waiting' (came ++ course.flatMap Event.admitted) := by
  induction course generalizing audit waiting came with
  | nil =>
      rw [List.flatMap_nil, List.append_nil]
      exact ⟨waiting, books⟩
  | cons event later ih =>
      obtain ⟨waiting', next⟩ :=
        books.step (quiet event List.mem_cons_self) (small [] List.nil_prefix)
      rw [List.flatMap_cons, ← List.append_assoc]
      refine ih next (fun other member => quiet other (List.mem_cons_of_mem _ member)) ?_
      intro earlier front
      exact small (event :: earlier) (List.cons_prefix_cons.mpr ⟨rfl, front⟩)

/-- The next outbox finds what is unread, and delivers that. -/
theorem Books.restart (books : audit.Books waiting came) (settings : DeliverySettings)
    (moment : Nat) :
    ∃ restarted, (Outbox.create audit.shipping.outbox.log.disk settings : Outbox α).start moment =
        .ok restarted ∧
      ∀ (client : Client α) (count : Nat), client.Eager →
        let last := (restarted.rounds count client).2
        last.accepted.toList <+: client.accepted.toList ++ waiting ∧
          (2 * waiting.length + 1 ≤ count →
            last.accepted.toList = client.accepted.toList ++ waiting) := by
  have ready := books.ledger.keeps.log
  have held : Frame.Holds audit.shipping.outbox.log.disk.unread waiting := by
    rw [ready.disk_unread books.stored]
    exact books.ledger.keeps.held
  obtain ⟨restarted, _, succeeded, keeps, rfl, _, obliges, _⟩ :=
    Outbox.start_spec ready.sound (books.obliging.openable ready.nameable) held settings moment
  refine ⟨restarted, succeeded, fun client count eager => ?_⟩
  have flows : restarted.Flows client _ := ⟨keeps, obliges books.obliging, eager⟩
  obtain ⟨left, _, account, _⟩ := flows.rounds count
  exact ⟨⟨_, account⟩, fun enough => (flows.empties enough).1⟩

end Audit

/-! ### After a crash -/

/-- An outbox is started over a directory with whole frames, anything but a failure of the disk
happens, and its process dies.  What was written to the log by then is what is gone, all of it
settled, then what was loaded into the ring and is still there, and then what is unread.  Whatever
outbox comes to the directory next, and with a client that accepts everything, it delivers the
records that are unread, in order.  So every record that was written and is not settled is delivered
exactly if there is none that was loaded.

The offset in the directory lies in the log when the outbox is started, and no file reaches 2⁶⁴
bytes, as lengths of files and offsets are kept in 64 bits. -/
theorem delivery_after_crash [LawfulRecord α] {disk : Disk} (sound : disk.Sound)
    (nameable : disk.log ≠ .barred) (obliging : disk.Obliging)
    (inside : disk.storedOffset ≤ disk.logContent.length)
    (small : disk.logContent.length < Bytes.bound 8) {backlog : List α}
    (held : Frame.Holds disk.unread backlog) (settings : DeliverySettings) (moment : Nat) :
    ∃ started, (Outbox.create disk settings : Outbox α).start moment = .ok started ∧
      ∀ course : List (Event α), (∀ event ∈ course, event.isQuiet = true) →
        (∀ earlier, earlier <+: course →
          ((Audit.begin disk started).after earlier).shipping.outbox.log.content.length <
            Bytes.bound 8) →
        let reached := (Audit.begin disk started).after course
        ∃ gone waiting, reached.written = gone ++ reached.loaded ++ waiting ∧
          gone.Sublist reached.shipping.settled ∧
          reached.loaded <+: reached.shipping.outbox.ring.toList ∧
          Frame.Holds reached.shipping.outbox.log.unread waiting ∧
          ∀ (settings' : DeliverySettings) (moment' : Nat), ∃ restarted,
            (Outbox.create reached.shipping.outbox.log.disk settings' : Outbox α).start moment' =
              .ok restarted ∧
            ∀ (client : Client α) (count : Nat), client.Eager → client.accepted = #[] →
              let delivered := (restarted.rounds count client).2.accepted.toList
              delivered <+: waiting ∧
                (2 * waiting.length + 1 ≤ count → delivered = waiting ∧
                  ((reached.loaded ++ waiting).Sublist delivered ↔ reached.loaded = [])) := by
  obtain ⟨started, waiting, succeeded, books⟩ :=
    Audit.Books.begin sound nameable obliging inside small held settings moment
  refine ⟨started, succeeded, fun course quiet sizes => ?_⟩
  intro reached
  simp only [Audit.shipping_after] at sizes
  obtain ⟨waiting, books⟩ := books.after quiet sizes
  obtain ⟨gone, balance, sublist⟩ := books.balance
  refine ⟨gone, waiting, balance, sublist, books.oldest, books.ledger.keeps.held, ?_⟩
  intro settings' moment'
  obtain ⟨restarted, succeeded', delivers⟩ := books.restart settings' moment'
  refine ⟨restarted, succeeded', fun client count eager none => ?_⟩
  intro delivered
  obtain ⟨some, all⟩ := delivers client count eager
  rw [none] at some all
  refine ⟨some, fun enough => ?_⟩
  have whole : delivered = waiting := all enough
  rw [whole]
  refine ⟨rfl, fun covered => ?_, fun nothing => ?_⟩
  -- all that waits is delivered already, so what was loaded besides leaves no room but if it is nothing
  · have lengths := covered.length_le
    rw [List.length_append] at lengths
    exact List.eq_nil_of_length_eq_zero (by omega)
  · rw [nothing, List.nil_append]

/-- The oldest record is delivered from the ring, the next is loaded from the log, and the last is
still there. -/
def crashCourse : List (Event Octets) :=
  [.add ⟨[1]⟩, .add ⟨[2]⟩, .add ⟨[3]⟩, .offer, .answer .accepted, .offer]

theorem crashCourse_spec {started : Outbox Octets}
    (succeeded : (Outbox.create {} { queueCapacity := 1 }).start 0 = .ok started) :
    let reached := (Audit.begin {} started).after crashCourse
    (∀ earlier ∈ crashCourse.inits,
      ((Audit.begin {} started).after earlier).shipping.outbox.log.content.length <
        Bytes.bound 8) ∧
      reached.written = [⟨[2]⟩, ⟨[3]⟩] ∧ reached.loaded = [⟨[2]⟩] ∧
      reached.shipping.outbox.log.unread = Frame.ofRecords [(⟨[3]⟩ : Octets)] := by
  have checked : ((Outbox.create {} { queueCapacity := 1 } : Outbox Octets).start 0).toOption.all
      fun started =>
        let reached := (Audit.begin {} started).after crashCourse
        decide ((∀ earlier ∈ crashCourse.inits,
          ((Audit.begin {} started).after earlier).shipping.outbox.log.content.length <
            Bytes.bound 8) ∧
          reached.written = [⟨[2]⟩, ⟨[3]⟩] ∧ reached.loaded = [⟨[2]⟩] ∧
          reached.shipping.outbox.log.unread = Frame.ofRecords [(⟨[3]⟩ : Octets)]) := by
    decide +kernel
  rw [succeeded] at checked
  exact of_decide_eq_true checked

theorem delivery_after_crash_of_crashCourse :
    ∃ started, (Outbox.create {} { queueCapacity := 1 } : Outbox Octets).start 0 = .ok started ∧
      let reached := (Audit.begin {} started).after crashCourse
      reached.written = [⟨[2]⟩, ⟨[3]⟩] ∧ reached.loaded = [⟨[2]⟩] ∧
        ∃ restarted, (Outbox.create reached.shipping.outbox.log.disk {} : Outbox Octets).start 0 =
            .ok restarted ∧
          (restarted.rounds 3 {}).2.accepted.toList = [⟨[3]⟩] := by
  have absent : ({} : Disk).log = .absent := rfl
  have nameable : ({} : Disk).log ≠ .barred := by decide
  have held : Frame.Holds ({} : Disk).unread ([] : List Octets) := .nil
  have eager : ({} : Client Octets).Eager := ⟨List.forall_mem_nil _, rfl⟩
  obtain ⟨started, succeeded, delivers⟩ := delivery_after_crash (Disk.sound_of_absent absent)
    nameable Disk.obliging_empty (Nat.le_refl 0) (by decide) held { queueCapacity := 1 } 0
  obtain ⟨sizes, written, loaded, unread⟩ := crashCourse_spec succeeded
  obtain ⟨_, waiting, _, _, _, rest, next⟩ := delivers crashCourse (by decide)
    fun earlier front => sizes earlier ((List.mem_inits _ _).mpr front)
  obtain ⟨restarted, succeeded', delivered⟩ := next {} 0
  have left : waiting = [⟨[3]⟩] := by
    rw [unread] at rest
    exact rest.unique (.ofRecords [(⟨[3]⟩ : Octets)])
  subst left
  obtain ⟨all, _⟩ := (delivered {} 3 eager rfl).2 (Nat.le_refl 3)
  exact ⟨started, succeeded, written, loaded, restarted, succeeded', all⟩

/-- A record that was written to the log is loaded into the ring, which the offset file notes at
once, and the process dies before the record is offered: the next outbox has nothing to deliver. -/
theorem crash_loses_loaded_record :
    (((Outbox.create {} { queueCapacity := 1 } : Outbox Octets).start 0).toOption.bind
      fun started =>
        let reached := (Audit.begin {} started).after
          [.add ⟨[1]⟩, .add ⟨[2]⟩, .offer, .answer .accepted, .offer]
        ((Outbox.create reached.shipping.outbox.log.disk {} : Outbox Octets).start 0).toOption.map
          fun restarted => (reached.written, reached.shipping.settled,
            (restarted.rounds 9 {}).2.accepted)) =
      some ([⟨[2]⟩], [⟨[1]⟩], #[]) := by
  decide +kernel

end TrafficMeter.Delivery
