/-
Module: TrafficMeter.Proofs.RestartReplay
Purpose: Outboxes that come one after another to the same directory hand their records on.  Each is
  started, delivers for a while, and is stopped, perhaps with a record on offer; whatever its
  settings are, the records that it has not settled are the first that the next one settles.
Main exports: Stint, Stint.run, relay, Inheritance, restarts_keep_order
-/
import TrafficMeter.Proofs.DeliveryOrder

namespace TrafficMeter.Delivery

open Spool

variable {α : Type} [Record α]

/-! ### One outbox after another -/

/-- The time of one outbox: its settings, when it is started, and what happens until it is
stopped. -/
structure Stint (α : Type) where
  settings : DeliverySettings
  moment : Nat := 0
  course : List (Event α)

/-- Start a fresh outbox over a directory, let the course of events pass, and stop it.  The outcome
are the records that it settled and the directory that it leaves. -/
def Stint.run (stint : Stint α) (disk : Disk) : Except StorageError (List α × Disk) :=
  match (Outbox.create disk stint.settings : Outbox α).start stint.moment with
  | .error error => .error error
  | .ok started =>
      let last := (⟨started, none, []⟩ : Shipping α).after stint.course
      match last.outbox.stop with
      | (.error error, _) => .error error
      | (.ok (), stopped) => .ok (last.settled, stopped.log.disk)

/-- Several outboxes one after another, each over the directory that the one before left. -/
def relay : List (Stint α) → Disk → Except StorageError (List α × Disk)
  | [], disk => .ok ([], disk)
  | stint :: later, disk => do
      let (settled, disk) ← stint.run disk
      let (more, disk) ← relay later disk
      return (settled ++ more, disk)

def Stint.admitted (stint : Stint α) : List α :=
  stint.course.flatMap Event.admitted

def Stint.Quiet (stint : Stint α) : Prop :=
  ∀ event ∈ stint.course, event.isQuiet = true

instance (stint : Stint α) : Decidable stint.Quiet :=
  inferInstanceAs (Decidable (∀ event ∈ stint.course, event.isQuiet = true))

/-! ### What one outbox leaves to the next -/

/-- A directory that hands records on: they are those of the whole log, and all of them fit. -/
structure Inheritance (disk : Disk) (left : List α) : Prop where
  sound : disk.Sound
  nameable : disk.log ≠ .barred
  obliging : disk.Obliging
  unmoved : disk.storedOffset = 0
  held : Frame.Holds disk.logContent left
  fitting : ∀ record ∈ left, Record.fits record = true

namespace Inheritance

theorem of_absent {disk : Disk} (absent : disk.log = .absent) (unwritten : disk.offset = .absent)
    (obliging : disk.Obliging) : Inheritance disk ([] : List α) where
  sound := Disk.sound_of_absent absent
  nameable := by
    intro barred
    cases absent.symm.trans barred
  obliging := obliging
  unmoved := Disk.storedOffset_of_absent unwritten
  held := by
    rw [Disk.logContent_of_absent absent]
    exact .nil
  fitting := List.forall_mem_nil _

variable {disk : Disk} {left : List α}

/-- A fresh outbox takes the oldest records to its ring, and leaves the others in the log. -/
theorem start (inherits : Inheritance disk left) (settings : DeliverySettings) (moment : Nat) :
    ∃ started, (Outbox.create disk settings : Outbox α).start moment = .ok started ∧
      (⟨started, none, []⟩ : Shipping α).Ledger (left.drop (max settings.queueCapacity 1)) left ∧
      started.log.disk.Obliging ∧
      started.ring.toList = left.take (max settings.queueCapacity 1) ∧
      (started.queueOnly = true ↔ left.length < max settings.queueCapacity 1) := by
  have held : Frame.Holds disk.unread left := by
    rw [Disk.unread_of_storedOffset inherits.unmoved]
    exact inherits.held
  obtain ⟨started, waiting, succeeded, keeps, contents, running, obliging, replayed⟩ :=
    Outbox.start_spec inherits.sound (inherits.obliging.openable inherits.nameable) held settings
      moment
  obtain ⟨oldest, rfl, direct⟩ := replayed inherits.obliging.givesReads
  exact ⟨started, succeeded, .of_keeps keeps running contents, obliging inherits.obliging, oldest,
    direct⟩

/-- A stop writes the ring, the unread bytes and the overflow list, in this order, and with that
everything that waits. -/
theorem stop [LawfulRecord α] {shipping : Shipping α} {waiting came : List α}
    (ledger : shipping.Ledger waiting came) (obliging : shipping.outbox.log.disk.Obliging)
    (fitting : ∀ record ∈ came, Record.fits record = true) :
    ∃ stopped, shipping.outbox.stop = (.ok (), stopped) ∧
      stopped.log.disk.logContent = Frame.ofRecords shipping.outbox.ring.toList ++
        shipping.outbox.log.unread ++ Frame.ofRecords shipping.outbox.overflow.toList ∧
      Inheritance stopped.log.disk (shipping.outbox.contents waiting) := by
  have keeps := ledger.keeps
  obtain ⟨stopped, result, sound, nameable, obliging', unmoved, content⟩ :=
    Outbox.stop_spec keeps ledger.running obliging
  have fits : ∀ record ∈ shipping.outbox.contents waiting, Record.fits record = true := by
    intro record member
    apply fitting
    rw [← ledger.balance]
    exact List.mem_append_right _ member
  have queued : ∀ record ∈ shipping.outbox.ring.toList, Record.fits record = true := by
    intro record member
    apply fits
    rw [Outbox.contents, List.append_assoc]
    exact List.mem_append_left _ member
  refine ⟨stopped, result, content, sound, nameable, obliging', unmoved, ?_, fits⟩
  rw [content]
  exact ((Frame.Holds.ofRecords_of_fits queued).append keeps.held).append
    (Frame.Holds.ofRecords_of_fits keeps.fitting)

/-- While nothing disturbs the directory, what was inherited and what was added is accounted for, and
a stop hands on what is not settled. -/
theorem pass [LawfulRecord α] (inherits : Inheritance disk left) {started : Outbox α}
    {waiting : List α} (ledger : (⟨started, none, []⟩ : Shipping α).Ledger waiting left)
    (obliging : started.log.disk.Obliging) {course : List (Event α)}
    (quiet : ∀ event ∈ course, event.isQuiet = true) :
    let last := (⟨started, none, []⟩ : Shipping α).after course
    ∃ waiting' stopped, last.Ledger waiting' (left ++ course.flatMap Event.admitted) ∧
      last.outbox.stop = (.ok (), stopped) ∧
      stopped.log.disk.logContent = Frame.ofRecords last.outbox.ring.toList ++
        last.outbox.log.unread ++ Frame.ofRecords last.outbox.overflow.toList ∧
      Inheritance stopped.log.disk (last.outbox.contents waiting') := by
  intro last
  obtain ⟨waiting', reached, kept⟩ := ledger.after course
  have fitting : ∀ record ∈ left ++ course.flatMap Event.admitted, Record.fits record = true := by
    intro record member
    rcases List.mem_append.mp member with old | new
    · exact inherits.fitting record old
    · obtain ⟨event, _, here⟩ := List.mem_flatMap.mp new
      exact event.fits_of_admitted here
  -- nothing has disturbed the directory, so it still obliges and the stop cannot fail
  obtain ⟨stopped, result, content, handed⟩ := stop reached (kept quiet obliging) fitting
  exact ⟨waiting', stopped, reached, result, content, handed⟩

/-- One outbox: what it inherits and what is added is settled, or handed on. -/
theorem run [LawfulRecord α] (inherits : Inheritance disk left) {stint : Stint α}
    (quiet : stint.Quiet) :
    ∃ settled disk' left', stint.run disk = .ok (settled, disk') ∧ Inheritance disk' left' ∧
      settled ++ left' = left ++ stint.admitted := by
  obtain ⟨started, succeeded, ledger, obliging, _⟩ := inherits.start stint.settings stint.moment
  obtain ⟨waiting, stopped, reached, result, _, handed⟩ := inherits.pass ledger obliging quiet
  refine ⟨_, stopped.log.disk, _, ?_, handed, reached.balance⟩
  rw [Stint.run, succeeded]
  dsimp only
  rw [result]

/-- All outboxes: what is added in their times is settled in their times, or left in the end. -/
theorem relay [LawfulRecord α] (inherits : Inheritance disk left) {stints : List (Stint α)}
    (quiet : ∀ stint ∈ stints, stint.Quiet) :
    ∃ settled disk' left', Delivery.relay stints disk = .ok (settled, disk') ∧
      Inheritance disk' left' ∧ settled ++ left' = left ++ stints.flatMap Stint.admitted := by
  induction stints generalizing disk left with
  | nil => exact ⟨[], disk, left, rfl, inherits, (List.append_nil _).symm⟩
  | cons stint later ih =>
      obtain ⟨settled, disk', left', ran, handed, balance⟩ :=
        inherits.run (quiet stint List.mem_cons_self)
      obtain ⟨more, last, rest, relayed, handedOn, total⟩ :=
        ih handed fun other member => quiet other (List.mem_cons_of_mem _ member)
      refine ⟨settled ++ more, last, rest, ?_, handedOn, ?_⟩
      · rw [Delivery.relay, ran]
        show (Delivery.relay later disk' >>= _) = _
        rw [relayed]
        rfl
      · rw [List.append_assoc, total, ← List.append_assoc, balance, List.flatMap_cons,
          List.append_assoc]

end Inheritance

/-! ### Order across restarts -/

/-- From a directory without log and offset file, with nothing in the way, every outbox of a sequence
starts and stops, and the records settled in their times and behind them those in the log that the
last one leaves are those added in their times, in order.

Whichever outbox comes next takes the oldest records of the log to its ring, as many as there is
room for, and sends new records straight there only if there is room left; at no time does it do so
while there are unread bytes in the log, or records in the overflow list.  Its stop writes ring,
unread bytes and overflow list. -/
theorem restarts_keep_order [LawfulRecord α] {disk : Disk} (absent : disk.log = .absent)
    (unwritten : disk.offset = .absent) (obliging : disk.Obliging) {stints : List (Stint α)}
    (quiet : ∀ stint ∈ stints, stint.Quiet) :
    ∃ settled disk' left, relay stints disk = .ok (settled, disk') ∧
      Frame.Holds disk'.logContent left ∧ settled ++ left = stints.flatMap Stint.admitted ∧
      ∀ (settings : DeliverySettings) (moment : Nat), ∃ started,
        (Outbox.create disk' settings : Outbox α).start moment = .ok started ∧
        started.ring.toList = left.take (max settings.queueCapacity 1) ∧
        Frame.Holds started.log.unread (left.drop (max settings.queueCapacity 1)) ∧
        started.overflow = #[] ∧
        (started.queueOnly = true ↔ left.length < max settings.queueCapacity 1) ∧
        ∀ course : List (Event α), (∀ event ∈ course, event.isQuiet = true) →
          let last := (⟨started, none, []⟩ : Shipping α).after course
          (last.outbox.queueOnly = true →
            last.outbox.log.unread = [] ∧ last.outbox.overflow = #[]) ∧
          ∃ stopped, last.outbox.stop = (.ok (), stopped) ∧
            stopped.log.disk.logContent = Frame.ofRecords last.outbox.ring.toList ++
              last.outbox.log.unread ++ Frame.ofRecords last.outbox.overflow.toList := by
  obtain ⟨settled, disk', left, relayed, inherits, balance⟩ :=
    (Inheritance.of_absent absent unwritten obliging).relay quiet
  refine ⟨settled, disk', left, relayed, inherits.held, balance, fun settings moment => ?_⟩
  obtain ⟨started, succeeded, ledger, obliging', oldest, direct⟩ := inherits.start settings moment
  refine ⟨started, succeeded, oldest, ledger.keeps.held, ?_, direct, fun course calm => ?_⟩
  · have whole : left ++ started.overflow.toList = left ++ [] := by
      have balance := ledger.balance
      rw [Outbox.contents, oldest, List.take_append_drop] at balance
      exact balance.trans (List.append_nil left).symm
    exact Array.toList_eq_nil_iff.mp (List.append_cancel_left whole)
  · intro last
    obtain ⟨waiting, stopped, reached, result, content, _⟩ :=
      inherits.pass ledger obliging' calm
    refine ⟨fun only => ?_, stopped, result, content⟩
    obtain ⟨rfl, vacant⟩ := reached.keeps.alone only
    exact ⟨reached.keeps.held.eq_nil, vacant⟩

/-- Two times of outboxes over rings of two sizes, the first with its second record on offer in the
end. -/
def sampleStints : List (Stint Octets) :=
  [{ settings := { queueCapacity := 2 }
     course := [.add ⟨[1]⟩, .add ⟨[2]⟩, .offer, .add ⟨[3]⟩, .answer .accepted, .offer] },
    { settings := { queueCapacity := 1 }
      course := [.offer, .add ⟨[4]⟩, .answer .accepted, .offer, .answer .silence] }]

theorem restarts_keep_order_of_sampleStints :
    ∃ settled disk left, relay sampleStints {} = .ok (settled, disk) ∧
      Frame.Holds disk.logContent left ∧
      settled ++ left = [(⟨[1]⟩ : Octets), ⟨[2]⟩, ⟨[3]⟩, ⟨[4]⟩] ∧
      ∃ started, (Outbox.create disk { queueCapacity := 7 } : Outbox Octets).start 0 =
        .ok started ∧ started.ring.toList = left.take 7 := by
  have absent : ({} : Disk).log = .absent := rfl
  have quiet : ∀ stint ∈ sampleStints, stint.Quiet := by decide
  obtain ⟨settled, disk, left, relayed, held, whole, next⟩ :=
    restarts_keep_order absent rfl Disk.obliging_empty quiet
  obtain ⟨started, succeeded, oldest, _⟩ := next { queueCapacity := 7 } 0
  exact ⟨settled, disk, left, relayed, held, whole, started, succeeded, oldest⟩

end TrafficMeter.Delivery
