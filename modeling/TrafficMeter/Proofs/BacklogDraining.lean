/-
Module: TrafficMeter.Proofs.BacklogDraining
Purpose: A backlog drains while the client accepts everything and nothing is added.  Every turn of the
  delivery loop hands over a record, or moves at least one from the log or the overflow list to the
  ring; so two turns for each record that waits are enough, and one more opens the direct way to the
  ring.
Main exports: Client.Eager, Outbox.Keeps.backfill_spec, Outbox.rounds, Outbox.Flows,
  Outbox.Flows.turn, Outbox.Flows.empties, backlog_drains
-/
import TrafficMeter.Proofs.DeliveryOrder

namespace TrafficMeter.Delivery

open Spool

variable {α : Type} [Record α]

/-! ### A client that accepts everything -/

/-- Every answer that the client is going to give accepts the record. -/
structure Client.Eager (client : Client α) : Prop where
  script : ∀ answer ∈ client.script, answer = .accepted
  afterwards : client.afterwards = .accepted

omit [Record α] in
theorem Client.Eager.ask {client : Client α} (eager : client.Eager) (record : α) :
    (client.ask record).1 = .accepted ∧ (client.ask record).2.Eager ∧
      (client.ask record).2.accepted.toList = client.accepted.toList ++ [record] := by
  have accepts : client.script.head?.getD client.afterwards = .accepted := by
    cases script : client.script with
    | nil => exact eager.afterwards
    | cons answer later => exact eager.script answer (by rw [script]; exact List.mem_cons_self)
  refine ⟨accepts, ⟨fun answer member => ?_, eager.afterwards⟩, ?_⟩
  · exact eager.script answer (List.mem_of_mem_tail member)
  · simp [Client.ask, accepts]

namespace Outbox

/-! ### Filling an empty ring -/

omit [Record α] in
/-- Records are left over only by a ring that has become full. -/
theorem isFull_of_refill_left {ring : RingBuffer α} {records : List α}
    (left : (refill ring records).2 ≠ []) : (refill ring records).1.isFull = true := by
  induction records generalizing ring with
  | nil => exact absurd rfl left
  | cons record others ih =>
      rw [refill] at left ⊢
      split
      · next full => exact full
      · next room =>
          rw [if_neg room] at left
          exact ih left

omit [Record α] in
/-- A ring with room takes records, if there are any. -/
theorem refill_ne_nil {ring : RingBuffer α} (valid : ring.Valid) {records : List α}
    (present : ring.toList ++ records ≠ []) : (refill ring records).1.toList ≠ [] := by
  obtain ⟨valid', _, whole, _⟩ := refill_spec valid records
  intro vacant
  by_cases left : (refill ring records).2 = []
  · rw [vacant, left, List.append_nil] at whole
    exact present whole.symm
  · have full := valid'.isFull_iff.mp (isFull_of_refill_left left)
    rw [vacant, List.length_nil] at full
    exact absurd full (Nat.ne_of_lt valid'.capacity_pos)

variable {outbox : Outbox α} {waiting : List α} {client : Client α}

/-- Free slots are filled from the log first, and nothing that waits is overlooked; where nothing
waits, the direct way to the ring is opened. -/
theorem Keeps.backfill_spec (keeps : outbox.Keeps waiting)
    (gives : outbox.log.disk.refusesReads = false) (vacant : outbox.ring.free ≠ 0) :
    ∃ log, outbox.log.load outbox.ring.free = .ok (waiting.take outbox.ring.free, log) ∧
      outbox.backfill.log = log ∧
      outbox.Follows waiting [] outbox.backfill (waiting.drop outbox.ring.free) ∧
      outbox.ring.toList ++ waiting.take outbox.ring.free <+: outbox.backfill.ring.toList ∧
      (outbox.contents waiting ≠ [] → outbox.backfill.ring.toList ≠ []) ∧
      (waiting = [] → outbox.overflow = #[] → outbox.backfill.queueOnly = true) := by
  obtain ⟨log, ring, loaded, replayed, items, _, follows⟩ := keeps.reload gives vacant
  refine ⟨log, loaded, ?_⟩
  rw [backfill, if_neg vacant, loaded]
  dsimp only
  rw [replayed]
  have read := logIsDrained_iff follows.keeps.log
  rw [follows.keeps.held.bytes_eq_nil_iff] at read
  split
  · next unread =>
      have more : waiting.drop outbox.ring.free ≠ [] := by
        intro none
        rw [read.mpr none] at unread
        cases unread
      -- the log gave as many records as there was room for, which is at least one
      have some : waiting.take outbox.ring.free ≠ [] := by
        rw [Ne, List.take_eq_nil_iff]
        rintro (none | none)
        · exact vacant none
        · rw [none, List.drop_nil] at more
          exact more rfl
      refine ⟨rfl, follows, items ▸ List.prefix_refl _, fun _ => ?_, ?_⟩
      · rw [items]
        exact List.append_ne_nil_of_right_ne_nil _ some
      · rintro rfl
        rw [List.drop_nil] at more
        exact absurd rfl more
  · next drained =>
      rw [Bool.not_eq_true', Bool.not_eq_false, read] at drained
      rw [drained] at follows ⊢
      have further := follows.keeps.refillOverflow
      refine ⟨rfl, follows.trans further, ?_, fun present => ?_, ?_⟩
      · rw [← items]
        exact further.oldest
      · apply refill_ne_nil follows.keeps.ring
        have whole := follows.contents_eq
        rw [contents, List.append_nil, List.append_nil] at whole
        exact whole ▸ present
      · intro _ spare
        dsimp only
        rw [spare]
        rfl

/-! ### Turns of the loop -/

/-- So many turns of the delivery loop, whatever the pauses between them. -/
def rounds : Nat → Outbox α → Client α → Outbox α × Client α
  | 0, outbox, client => (outbox, client)
  | count + 1, outbox, client => rounds count (outbox.turn client).1 (outbox.turn client).2.1

/-- What the loop does in one go are turns, up to a pause. -/
theorem turns_eq_rounds (moment limit : Nat) (outbox : Outbox α) (client : Client α) :
    ∃ count courier, count ≤ limit ∧ turns moment limit outbox client =
      ({ (rounds count outbox client).1 with courier }, (rounds count outbox client).2) := by
  induction limit generalizing outbox client with
  | zero => exact ⟨0, outbox.courier, Nat.le_refl _, rfl⟩
  | succ limit ih =>
      -- the first turn, and then so many more
      have first (more : Nat) : rounds (more + 1) outbox client =
        rounds more (outbox.turn client).1 (outbox.turn client).2.1 := rfl
      rw [turns]
      generalize outbox.turn client = turn at first ⊢
      obtain ⟨next, client', pace⟩ := turn
      obtain ⟨count, courier, bounded, further⟩ := ih next client'
      have goesOn : ∃ count courier, count ≤ limit + 1 ∧ turns moment limit next client' =
          ({ (rounds count outbox client).1 with courier }, (rounds count outbox client).2) :=
        ⟨count + 1, courier, Nat.succ_le_succ bounded, by rw [first, further]⟩
      have ends (later : Courier) : ∃ count courier, count ≤ limit + 1 ∧
          ({ next with courier := later }, client') =
            ({ (rounds count outbox client).1 with courier }, (rounds count outbox client).2) :=
        ⟨1, later, Nat.succ_pos _, by rw [first, rounds]⟩
      cases pace with
      | again => exact goesOn
      | pause milliseconds =>
          cases milliseconds with
          | zero => exact goesOn
          | succ further => exact ends _
      | wait => exact ends _

/-- Nothing waits in the outbox, and new records go straight to the ring. -/
def Drained (outbox : Outbox α) (waiting : List α) : Prop :=
  outbox.contents waiting = [] ∧ outbox.queueOnly = true

/-- The turns that the records in the outbox need: one for its delivery each, and for every one that
is not in the ring at most one that brings it there. -/
def work (outbox : Outbox α) (waiting : List α) : Nat :=
  2 * (waiting.length + outbox.overflow.size) + outbox.ring.toList.length

omit [Record α] in
theorem work_le (outbox : Outbox α) (waiting : List α) :
    outbox.work waiting ≤ 2 * (outbox.contents waiting).length := by
  simp only [work, contents, List.length_append, Array.length_toList]
  omega

/-- Everything is in order for a delivery: the outbox, the directory and the client. -/
structure Flows (outbox : Outbox α) (client : Client α) (waiting : List α) : Prop where
  keeps : outbox.Keeps waiting
  obliging : outbox.log.disk.Obliging
  eager : client.Eager

/-- A turn keeps account of the records, and gets nearer to the end. -/
theorem Flows.turn (flows : outbox.Flows client waiting) :
    ∃ waiting', (outbox.turn client).1.Flows (outbox.turn client).2.1 waiting' ∧
      (outbox.turn client).2.1.accepted.toList ++ (outbox.turn client).1.contents waiting' =
        client.accepted.toList ++ outbox.contents waiting ∧
      (outbox.contents waiting = [] → (outbox.turn client).1.Drained waiting') ∧
      (outbox.contents waiting ≠ [] →
        (outbox.turn client).1.work waiting' < outbox.work waiting) := by
  have keeps := flows.keeps
  have oldest := RingBuffer.peek?_eq keeps.ring
  cases items : outbox.ring.toList with
  | nil =>
      obtain ⟨_, _, _, follows, _, filled, opened⟩ :=
        keeps.backfill_spec flows.obliging.givesReads (keeps.ring.free_ne_zero items)
      have turned : outbox.turn client = (outbox.backfill, client, .pause outbox.poll) := by
        rw [Outbox.turn, oldest, items]
        rfl
      rw [turned]
      -- nothing is delivered, but what comes to the ring counts only half there
      have whole := follows.contents_eq
      rw [List.append_nil] at whole
      refine ⟨_, ⟨follows.keeps, follows.obliging flows.obliging, flows.eager⟩, ?_, ?_, ?_⟩
      · rw [whole]
      · intro none
        have parts := none
        rw [contents, List.append_eq_nil_iff, List.append_eq_nil_iff] at parts
        exact ⟨whole.trans none, opened parts.1.2 (Array.toList_eq_nil_iff.mp parts.2)⟩
      · intro present
        have lengths := congrArg List.length whole
        have placed := List.length_pos_iff.mpr (filled present)
        simp only [contents, work, items, List.length_append, Array.length_toList,
          List.length_nil] at lengths ⊢
        omega
  | cons record younger =>
      obtain ⟨accepts, eager, accepted⟩ := flows.eager.ask record
      have left := RingBuffer.toList_dropHead keeps.ring
      rw [items] at left
      have turned : outbox.turn client =
          ({ outbox with ring := outbox.ring.dropHead }, (client.ask record).2, .again) := by
        rw [Outbox.turn, oldest, items]
        show ((outbox.settle (client.ask record).1).1, (client.ask record).2,
          (outbox.settle (client.ask record).1).2) = _
        rw [accepts]
        rfl
      rw [turned]
      refine ⟨waiting, ⟨⟨keeps.ring.dropHead, keeps.log, keeps.held, keeps.fitting, keeps.alone⟩,
        flows.obliging, eager⟩, ?_, ?_, fun _ => ?_⟩
      · simp [contents, accepted, items, left]
      · intro none
        rw [contents, items] at none
        cases none
      · simp [work, items, left]

/-- Turn after turn, the records go over to the client in order, until nothing is left. -/
theorem Flows.rounds (flows : outbox.Flows client waiting) (count : Nat) :
    ∃ waiting', (outbox.rounds count client).1.Flows (outbox.rounds count client).2 waiting' ∧
      (outbox.rounds count client).2.accepted.toList ++
          (outbox.rounds count client).1.contents waiting' =
        client.accepted.toList ++ outbox.contents waiting ∧
      (outbox.work waiting < count ∨ outbox.Drained waiting →
        (outbox.rounds count client).1.Drained waiting') := by
  induction count generalizing outbox waiting client with
  | zero =>
      refine ⟨waiting, flows, rfl, ?_⟩
      rintro (impossible | drained)
      · exact absurd impossible (Nat.not_lt_zero _)
      · exact drained
  | succ count ih =>
      obtain ⟨waiting', onward, account, ended, nearer⟩ := flows.turn
      obtain ⟨last, reached, account', done⟩ := ih onward
      refine ⟨last, reached, account'.trans account, fun enough => done ?_⟩
      by_cases none : outbox.contents waiting = []
      · exact .inr (ended none)
      · have closer := nearer none
        rcases enough with enough | drained
        · exact .inl (by omega)
        · exact absurd drained.1 none

/-- With enough turns the client has everything, in order, and the outbox nothing. -/
theorem Flows.empties (flows : outbox.Flows client waiting) {count : Nat}
    (enough : 2 * (outbox.contents waiting).length + 1 ≤ count) :
    let last := outbox.rounds count client
    last.2.accepted.toList = client.accepted.toList ++ outbox.contents waiting ∧
      last.1.ring.toList = [] ∧ last.1.overflow = #[] ∧ last.1.log.pending = .ok 0 ∧
      last.1.queueOnly = true := by
  intro last
  obtain ⟨waiting', flows', account, done⟩ := flows.rounds count
  obtain ⟨nothing, direct⟩ := done (.inl (Nat.lt_of_le_of_lt (work_le _ _) enough))
  rw [nothing, List.append_nil] at account
  rw [contents, List.append_eq_nil_iff, List.append_eq_nil_iff] at nothing
  obtain ⟨⟨spent, rfl⟩, spare⟩ := nothing
  refine ⟨account, spent, Array.toList_eq_nil_iff.mp spare, ?_, direct⟩
  rw [flows'.keeps.log.pending_eq, flows'.keeps.held.eq_nil]
  rfl

end Outbox

/-! ### The backlog -/

/-- Whatever was added to an outbox over a directory with whole frames, and whatever the client
answered: if nothing more is added and the client accepts every record from now on, then after two
turns for each record that waits, and one more, the records that waited were accepted in order,
nothing waits any longer, and new records go straight to the ring.  No turn with an empty ring
leaves it empty while a record waits. -/
theorem backlog_drains [LawfulRecord α] {disk : Disk} (sound : disk.Sound)
    (nameable : disk.log ≠ .barred) (obliging : disk.Obliging) {backlog : List α}
    (held : Frame.Holds disk.unread backlog) (settings : DeliverySettings) (moment : Nat) :
    ∃ started, (Outbox.create disk settings : Outbox α).start moment = .ok started ∧
      ∀ course : List (Event α), (∀ event ∈ course, event.isQuiet = true) →
        let reached := (⟨started, none, []⟩ : Shipping α).after course
        ∃ waiting, Frame.Holds reached.outbox.log.unread waiting ∧
          reached.settled ++ reached.outbox.contents waiting =
            backlog ++ course.flatMap Event.admitted ∧
          (reached.outbox.ring.toList = [] → reached.outbox.contents waiting ≠ [] →
            reached.outbox.backfill.ring.toList ≠ []) ∧
          ∀ (client : Client α) (count : Nat), client.Eager →
            2 * (reached.outbox.contents waiting).length + 1 ≤ count →
              let last := reached.outbox.rounds count client
              last.2.accepted.toList =
                  client.accepted.toList ++ reached.outbox.contents waiting ∧
                last.1.ring.toList = [] ∧ last.1.overflow = #[] ∧ last.1.log.pending = .ok 0 ∧
                last.1.queueOnly = true := by
  obtain ⟨started, waiting, succeeded, keeps, contents, running, obliges, _⟩ :=
    Outbox.start_spec sound (obliging.openable nameable) held settings moment
  refine ⟨started, succeeded, fun course quiet => ?_⟩
  intro reached
  have ledger : Shipping.Ledger ⟨started, none, []⟩ waiting backlog :=
    .of_keeps keeps running contents
  obtain ⟨waiting, ledger, kept⟩ := ledger.after course
  have undisturbed := kept quiet (obliges obliging)
  refine ⟨waiting, ledger.keeps.held, ledger.balance, fun spent present => ?_, ?_⟩
  · obtain ⟨_, _, _, _, _, filled, _⟩ :=
      ledger.keeps.backfill_spec undisturbed.givesReads (ledger.keeps.ring.free_ne_zero spent)
    exact filled present
  · intro client count eager enough
    exact Outbox.Flows.empties ⟨ledger.keeps, undisturbed, eager⟩ enough

/-- Three records come while there is room for one in the ring, so that two go to the log. -/
theorem backlog_drains_of_three :
    ∃ started, (Outbox.create {} { queueCapacity := 1 } : Outbox Octets).start 0 = .ok started ∧
      let reached := (⟨started, none, []⟩ : Shipping Octets).after
        [.add ⟨[1]⟩, .add ⟨[2]⟩, .add ⟨[3]⟩]
      let last := reached.outbox.rounds 7 {}
      last.2.accepted.toList = [⟨[1]⟩, ⟨[2]⟩, ⟨[3]⟩] ∧ last.1.queueOnly = true := by
  have absent : ({} : Disk).log = .absent := rfl
  have nameable : ({} : Disk).log ≠ .barred := by decide
  have held : Frame.Holds ({} : Disk).unread ([] : List Octets) := .nil
  have eager : ({} : Client Octets).Eager := ⟨List.forall_mem_nil _, rfl⟩
  obtain ⟨started, succeeded, drains⟩ := backlog_drains (Disk.sound_of_absent absent) nameable
    Disk.obliging_empty held { queueCapacity := 1 } 0
  obtain ⟨waiting, _, balance, _, drained⟩ :=
    drains [.add ⟨[1]⟩, .add ⟨[2]⟩, .add ⟨[3]⟩] (by decide)
  -- no record was settled, so that all are among the contents
  have all : Outbox.contents _ waiting = [⟨[1]⟩, ⟨[2]⟩, ⟨[3]⟩] := balance
  obtain ⟨accepted, _, _, _, direct⟩ := drained {} 7 eager (by rw [all]; decide)
  rw [all] at accepted
  exact ⟨started, succeeded, accepted, direct⟩

end TrafficMeter.Delivery
