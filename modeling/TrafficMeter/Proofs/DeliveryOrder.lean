/-
Module: TrafficMeter.Proofs.DeliveryOrder
Purpose: The delivery loop settles records in the order in which they came.  Records are added, also
  between an offer to the client and its answer, and the client answers as it likes; the directory
  takes and gives bytes or refuses to, at any time.  At every moment the records settled, those in the
  ring, in the log and in the overflow list are, one behind the other, those that came.
Main exports: Event, Shipping, Shipping.step, Shipping.Ledger, Shipping.turn_eq, delivery_in_order
-/
import TrafficMeter.Proofs.OutboxContents

namespace TrafficMeter.Delivery

open Spool

variable {α : Type} [Record α]

/-! ### What happens -/

/-- Whether an answer settles a record, so that it is never offered again. -/
def Answer.settles : Answer → Bool
  | .accepted => true
  | .failed error => error.isPermanent
  | .breakdown => false
  | .silence => false

/-- What happens to an outbox whose delivery loop is at work. -/
inductive Event (α : Type) where
  | add (record : α)
  /-- the loop offers the oldest record to the client, or fills the ring when it is empty -/
  | offer
  /-- the client answers the offer, or breaks down in the middle of it -/
  | answer (answer : Answer)
  /-- everything in the directory but the log files is now as it is there: the other files, and
  whether bytes can be appended and read back -/
  | disturb (around : Disk)

/-- The records that an event adds for delivery. -/
def Event.admitted : Event α → List α
  | .add record => [record].filter Record.fits
  | .offer => []
  | .answer _ => []
  | .disturb _ => []

/-- Only records that fit a frame are admitted. -/
theorem Event.fits_of_admitted {event : Event α} {record : α} (added : record ∈ event.admitted) :
    Record.fits record = true := by
  cases event with
  | add added' => exact (List.mem_filter.mp added).2
  | offer => cases added
  | answer answer => cases added
  | disturb around => cases added

def Event.isQuiet : Event α → Bool
  | .disturb _ => false
  | _ => true

/-- The log files of one directory amid everything else of another. -/
def amid (disk around : Disk) : Disk :=
  { around with files := disk.files, log := disk.log }

/-- An outbox whose delivery loop is at work. -/
structure Shipping (α : Type) where
  outbox : Outbox α
  /-- the record that was offered to the client, while there is no answer -/
  offered : Option α := none
  /-- the records that were accepted, or refused for good, in order -/
  settled : List α := []

namespace Shipping

def step (shipping : Shipping α) : Event α → Shipping α
  | .add record => { shipping with outbox := shipping.outbox.add record }
  | .offer =>
      match shipping.offered, shipping.outbox.ring.peek? with
      | some _, _ => shipping
      | none, none => { shipping with outbox := shipping.outbox.backfill }
      | none, some record => { shipping with offered := some record }
  | .answer answer =>
      match shipping.offered with
      | none => shipping
      | some record =>
          { outbox := (shipping.outbox.settle answer).1
            offered := if answer = .silence then some record else none
            settled := shipping.settled ++ if answer.settles then [record] else [] }
  | .disturb around =>
      { shipping with outbox := shipping.outbox.onDisk (amid shipping.outbox.log.disk around) }

def after (shipping : Shipping α) (course : List (Event α)) : Shipping α :=
  course.foldl step shipping

theorem after_append (shipping : Shipping α) (first second : List (Event α)) :
    shipping.after (first ++ second) = (shipping.after first).after second :=
  List.foldl_append

/-- A turn of the delivery loop is an offer and, without delay, the answer of the client; only a
client that does not answer leaves the offer open. -/
theorem turn_eq (outbox : Outbox α) (client : Client α) (settled : List α) :
    ∃ offered settled', (⟨outbox, none, settled⟩ : Shipping α).after
        [.offer, .answer (client.script.head?.getD client.afterwards)] =
          ⟨(outbox.turn client).1, offered, settled'⟩ ∧
      ((outbox.turn client).2.2 ≠ .wait → offered = none) := by
  simp only [after, List.foldl_cons, List.foldl_nil, step, Outbox.turn]
  cases outbox.ring.peek? with
  | none => exact ⟨none, settled, rfl, fun _ => rfl⟩
  | some record =>
      refine ⟨_, _, rfl, fun answered => if_neg ?_⟩
      intro silent
      apply answered
      simp only [Client.ask, silent, Outbox.settle]

/-- What the loop does in one go, with any client, is a course of offers and answers. -/
theorem turns_eq (moment limit : Nat) (outbox : Outbox α) (client : Client α) (settled : List α) :
    ∃ course courier, (Outbox.turns moment limit outbox client).1 =
      { ((⟨outbox, none, settled⟩ : Shipping α).after course).outbox with courier } := by
  induction limit generalizing outbox client settled with
  | zero => exact ⟨[], outbox.courier, rfl⟩
  | succ limit ih =>
      obtain ⟨offered, settled', turned, closed⟩ := turn_eq outbox client settled
      rw [Outbox.turns]
      generalize [Event.offer, _] = first at turned
      generalize outbox.turn client = turn at turned closed
      obtain ⟨next, client', pace⟩ := turn
      -- the loop goes on only when the offer was answered
      have goesOn (answered : pace ≠ .wait) : ∃ course courier,
          (Outbox.turns moment limit next client').1 =
            { ((⟨outbox, none, settled⟩ : Shipping α).after course).outbox with courier } := by
        obtain ⟨course, courier, later⟩ := ih next client' settled'
        refine ⟨first ++ course, courier, ?_⟩
        rw [after_append, turned, closed answered]
        exact later
      cases pace with
      | again =>
          apply goesOn
          intro waits
          cases waits
      | pause milliseconds =>
          cases milliseconds with
          | zero =>
              apply goesOn
              intro waits
              cases waits
          | succ further =>
              refine ⟨first, .due (moment + (further + 1)), ?_⟩
              rw [turned]
              rfl
      | wait => exact ⟨first, .waiting, by rw [turned]⟩

/-! ### The ledger -/

/-- The records that came so far, from the log and by additions, are those settled and, behind them,
those that wait; the record on offer is the oldest that waits. -/
structure Ledger (shipping : Shipping α) (waiting came : List α) : Prop where
  keeps : shipping.outbox.Keeps waiting
  running : shipping.outbox.running = true
  oldest : ∀ record, shipping.offered = some record →
    shipping.outbox.ring.toList.head? = some record
  balance : shipping.settled ++ shipping.outbox.contents waiting = came

variable {shipping : Shipping α} {waiting came : List α}

/-- A running outbox with no delivery under way opens the ledger with what it contains. -/
theorem Ledger.of_keeps {outbox : Outbox α} (keeps : outbox.Keeps waiting)
    (running : outbox.running = true) (contents : outbox.contents waiting = came) :
    Ledger ⟨outbox, none, []⟩ waiting came := by
  refine ⟨keeps, running, ?_, contents⟩
  intro record offered
  cases offered

/-- A ledger goes on while the outbox takes records in at its end. -/
theorem Ledger.follow (ledger : Ledger shipping waiting came) {taken waiting' : List α}
    {next : Outbox α} (follows : shipping.outbox.Follows waiting taken next waiting') :
    Ledger { shipping with outbox := next } waiting' (came ++ taken) := by
  refine ⟨follows.keeps, follows.running.trans ledger.running, ?_, ?_⟩
  · intro record offered
    obtain ⟨newer, grown⟩ := follows.oldest
    rw [← grown, List.head?_append, ledger.oldest record offered]
    rfl
  · rw [follows.contents_eq, ← List.append_assoc, ledger.balance]

omit [Record α] in
/-- An answer that settles a record takes it from the ring, and no other answer changes anything. -/
theorem settle_eq (outbox : Outbox α) (answer : Answer) :
    (outbox.settle answer).1 =
      if answer.settles then { outbox with ring := outbox.ring.dropHead } else outbox := by
  cases answer with
  | accepted => rfl
  | failed error =>
      rw [Outbox.settle, Answer.settles]
      split <;> rfl
  | breakdown => rfl
  | silence => rfl

/-- The record that is settled is the one that leaves the ring. -/
theorem Ledger.answer (ledger : Ledger shipping waiting came) (answer : Answer) :
    Ledger (shipping.step (.answer answer)) waiting came := by
  rw [step]
  cases offered : shipping.offered with
  | none => exact ledger
  | some record =>
      have oldest := ledger.oldest record offered
      dsimp only
      rw [settle_eq]
      cases settles : answer.settles with
      | false =>
          refine ⟨ledger.keeps, ledger.running, ?_, ?_⟩
          · intro other still
            dsimp only at still
            split at still
            · cases still
              exact oldest
            · cases still
          · dsimp only
            rw [if_neg Bool.false_ne_true, List.append_nil]
            exact ledger.balance
      | true =>
          have heard : answer ≠ .silence := by
            rintro rfl
            cases settles
          obtain ⟨younger, items⟩ : ∃ younger, shipping.outbox.ring.toList = record :: younger :=
            List.head?_eq_some_iff.mp oldest
          have left := RingBuffer.toList_dropHead ledger.keeps.ring
          rw [items, List.tail_cons] at left
          have balance := ledger.balance
          rw [Outbox.contents, items] at balance
          refine ⟨⟨ledger.keeps.ring.dropHead, ledger.keeps.log, ledger.keeps.held,
            ledger.keeps.fitting, ledger.keeps.alone⟩, ledger.running, ?_, ?_⟩
          · intro other still
            rw [if_neg heard] at still
            cases still
          · rw [Outbox.contents, if_pos rfl, if_pos rfl, left, ← balance]
            simp only [List.append_assoc, List.cons_append, List.nil_append]

theorem answer_log (shipping : Shipping α) (answer : Answer) :
    (shipping.step (.answer answer)).outbox.log = shipping.outbox.log := by
  rw [step]
  cases shipping.offered with
  | none => rfl
  | some record =>
      dsimp only
      rw [settle_eq]
      split <;> rfl

/-- A disturbed disk takes nothing out of the ledger: refusals delay, they do not drop. -/
theorem Ledger.disturb (ledger : Ledger shipping waiting came) (around : Disk) :
    Ledger (shipping.step (.disturb around)) waiting came := by
  have keeps := ledger.keeps
  obtain ⟨identity, named⟩ := keeps.log.named
  exact ⟨⟨keeps.ring, ⟨⟨identity, named⟩, keeps.log.within⟩, keeps.held, keeps.fitting, keeps.alone⟩,
    ledger.running, ledger.oldest, ledger.balance⟩

/-- One event: the ledger goes on, with the records that the event adds. -/
theorem Ledger.step [LawfulRecord α] (ledger : Ledger shipping waiting came) (event : Event α) :
    ∃ waiting', Ledger (shipping.step event) waiting' (came ++ event.admitted) ∧
      (event.isQuiet = true → shipping.outbox.log.disk.Obliging →
        (shipping.step event).outbox.log.disk.Obliging) := by
  cases event with
  | add record =>
      obtain ⟨waiting', follows⟩ := Outbox.add_follows ledger.keeps record
      exact ⟨waiting', ledger.follow follows, fun _ => follows.obliging⟩
  | offer =>
      rw [Event.admitted, Shipping.step]
      cases offered : shipping.offered with
      | some record =>
          rw [List.append_nil]
          exact ⟨waiting, ledger, fun _ => id⟩
      | none =>
          cases oldest : shipping.outbox.ring.peek? with
          | none =>
              obtain ⟨waiting', follows⟩ := Outbox.backfill_follows ledger.keeps
              have next := ledger.follow follows
              rw [offered] at next
              exact ⟨waiting', next, fun _ => follows.obliging⟩
          | some record =>
              rw [List.append_nil]
              refine ⟨waiting, ⟨ledger.keeps, ledger.running, ?_, ledger.balance⟩, fun _ => id⟩
              intro other new
              cases new
              rw [← RingBuffer.peek?_eq ledger.keeps.ring]
              exact oldest
  | answer answer =>
      rw [Event.admitted, List.append_nil]
      refine ⟨waiting, ledger.answer answer, fun _ obliging => ?_⟩
      rw [answer_log]
      exact obliging
  | disturb around =>
      rw [Event.admitted, List.append_nil]
      exact ⟨waiting, ledger.disturb around, fun quiet => absurd quiet Bool.false_ne_true⟩

/-- The ledger equation holds after every course of events, and an obliging disk stays so where
nothing disturbs it. -/
theorem Ledger.after [LawfulRecord α] (ledger : Ledger shipping waiting came)
    (course : List (Event α)) :
    ∃ waiting', Ledger (shipping.after course) waiting' (came ++ course.flatMap Event.admitted) ∧
      ((∀ event ∈ course, event.isQuiet = true) → shipping.outbox.log.disk.Obliging →
        (shipping.after course).outbox.log.disk.Obliging) := by
  induction course generalizing shipping waiting came with
  | nil =>
      rw [List.flatMap_nil, List.append_nil]
      exact ⟨waiting, ledger, fun _ => id⟩
  | cons event later ih =>
      obtain ⟨waiting', next, kept⟩ := ledger.step event
      obtain ⟨last, reached, keptOn⟩ := ih next
      rw [List.flatMap_cons, ← List.append_assoc]
      refine ⟨last, reached, fun quiet obliging => ?_⟩
      exact keptOn (fun other member => quiet other (List.mem_cons_of_mem _ member))
        (kept (quiet event List.mem_cons_self) obliging)

end Shipping

/-! ### Order -/

/-- A fresh outbox can be started over every directory whose log can be opened.  Where the unread
bytes there are whole frames, after the start and any course of events the records settled, and behind
them those in the ring, in the log and in the overflow list, are the backlog of the directory and the
records added, in order; `Frame.Holds.unique` says that bytes hold but one list.  New records go
straight to the ring only while nothing waits behind it. -/
theorem delivery_in_order [LawfulRecord α] {disk : Disk} (sound : disk.Sound) {backlog : List α}
    (held : Frame.Holds disk.unread backlog) (settings : DeliverySettings) (moment : Nat) :
    ((∃ started, (Outbox.create disk settings : Outbox α).start moment = .ok started) ↔
      disk.Openable) ∧
    ∀ started, (Outbox.create disk settings : Outbox α).start moment = .ok started →
      ∀ course : List (Event α),
        let reached := (⟨started, none, []⟩ : Shipping α).after course
        ∃ waiting, Frame.Holds reached.outbox.log.unread waiting ∧
          reached.settled ++ reached.outbox.ring.toList ++ waiting ++
              reached.outbox.overflow.toList =
            backlog ++ course.flatMap Event.admitted ∧
          (reached.outbox.queueOnly = true → waiting = [] ∧ reached.outbox.overflow = #[]) := by
  have starts := Outbox.exists_start_create_iff (α := α) sound settings moment
  refine ⟨starts, fun started succeeded course => ?_⟩
  intro reached
  obtain ⟨_, waiting, begins, keeps, contents, running, _⟩ :=
    Outbox.start_spec sound (starts.mp ⟨started, succeeded⟩) held settings moment
  cases begins.symm.trans succeeded
  have ledger : Shipping.Ledger ⟨started, none, []⟩ waiting backlog :=
    .of_keeps keeps running contents
  obtain ⟨left, last, _⟩ := ledger.after course
  refine ⟨left, last.keeps.held, ?_, last.keeps.alone⟩
  rw [← last.balance, Outbox.contents]
  simp only [List.append_assoc, reached]

/-- A directory with two records in its log, the first of which was read. -/
def sampleDisk : Disk where
  files := [(Frame.ofRecords [(⟨[1]⟩ : Octets), ⟨[2]⟩]).toByteArray]
  log := .file 0
  offset := .file (Bytes.littleEndian 8 3)

/-- Records come while one is on offer and while the log takes none. -/
def sampleCourse : List (Event Octets) :=
  [.offer, .add ⟨[3]⟩, .answer .breakdown, .offer, .disturb { refusesAppends := true }, .add ⟨[4]⟩,
    .answer .accepted, .disturb {}, .add ⟨[5]⟩, .offer, .offer]

theorem delivery_in_order_of_sampleCourse :
    ∃ started, (Outbox.create sampleDisk { queueCapacity := 1 } : Outbox Octets).start 0 =
        .ok started ∧
      let reached := (⟨started, none, []⟩ : Shipping Octets).after sampleCourse
      ∃ waiting, Frame.Holds reached.outbox.log.unread waiting ∧
        reached.settled ++ reached.outbox.ring.toList ++ waiting ++
          reached.outbox.overflow.toList = [⟨[2]⟩, ⟨[3]⟩, ⟨[4]⟩, ⟨[5]⟩] := by
  have sound : sampleDisk.Sound := by
    intro identity named
    cases named
    exact Nat.one_pos
  have unread : sampleDisk.unread = Frame.ofRecords [(⟨[2]⟩ : Octets)] := by decide +kernel
  have held : Frame.Holds sampleDisk.unread [(⟨[2]⟩ : Octets)] := by
    rw [unread]
    exact Frame.Holds.ofRecords_of_fits (by decide)
  have openable : sampleDisk.Openable := Disk.openable_of_reads (by decide) rfl
  obtain ⟨starts, ordered⟩ := delivery_in_order sound held { queueCapacity := 1 } 0
  obtain ⟨started, succeeded⟩ := starts.mpr openable
  obtain ⟨waiting, rest, whole, _⟩ := ordered started succeeded sampleCourse
  exact ⟨started, succeeded, waiting, rest, whole⟩

end TrafficMeter.Delivery
