/-
Module: TrafficMeter.Proofs.EarlyAdditions
Purpose: Records that are added to an outbox before it is started.  They wait in the overflow list, and
  the start does not look there: where the log leaves room in the ring, it lets new records go straight
  to the ring, past those that waited longer.
Main exports: Outbox.addAll, Outbox.addAll_create, direct_mode_iff
-/
import TrafficMeter.Proofs.DeliveryOrder

namespace TrafficMeter.Delivery

open Spool

variable {α : Type} [Record α]

namespace Outbox

def addAll (outbox : Outbox α) (records : List α) : Outbox α :=
  records.foldl (fun outbox record => outbox.add record) outbox

/-- While the log is closed, a new record is set aside, however many there are already. -/
theorem add_of_closed {outbox : Outbox α} (closed : outbox.log.isOpen = false)
    (indirect : outbox.queueOnly = false) (record : α) :
    outbox.add record =
      { outbox with overflow := outbox.overflow ++ ([record].filter Record.fits).toArray } := by
  obtain ⟨ring, overflow, log, queueOnly, running, cancelled, courier, backoff, poll⟩ := outbox
  cases indirect
  cases fits : Record.fits record with
  | true => simp_all [add, takeIn, setAside]
  | false => simp [add, fits]

theorem addAll_of_closed {outbox : Outbox α} (closed : outbox.log.isOpen = false)
    (indirect : outbox.queueOnly = false) (records : List α) :
    outbox.addAll records =
      { outbox with overflow := outbox.overflow ++ (records.filter Record.fits).toArray } := by
  induction records generalizing outbox with
  | nil => simp [addAll]
  | cons record others ih =>
      have split : (record :: others).filter Record.fits =
          [record].filter Record.fits ++ others.filter Record.fits := List.filter_append [record] others
      let next : Outbox α :=
        { outbox with overflow := outbox.overflow ++ ([record].filter Record.fits).toArray }
      calc outbox.addAll (record :: others)
          = next.addAll others := by
            rw [addAll, List.foldl_cons, add_of_closed closed indirect]
            rfl
        _ = { next with overflow := next.overflow ++ (others.filter Record.fits).toArray } :=
            @ih next closed indirect
        _ = _ := by simp [next, split]

/-- Before the start all records that fit are set aside. -/
theorem addAll_create (disk : Disk) (settings : DeliverySettings) (records : List α) :
    (create disk settings).addAll records =
      { create disk settings with overflow := (records.filter Record.fits).toArray } := by
  rw [addAll_of_closed rfl rfl]
  simp [create]

end Outbox

/-- Records are added to a fresh outbox, it is started over a directory whose unread bytes are whole
frames, and anything may happen then.  New records go straight to the ring only while nothing waits
behind it exactly if no record that fits was added before the start, or the log fills the ring; then
the records added early are settled behind the backlog of the directory, and before those that come
later.  Otherwise the next record goes to the ring in front of those added early. -/
theorem direct_mode_iff [LawfulRecord α] {disk : Disk} (sound : disk.Sound)
    (nameable : disk.log ≠ .barred) (gives : disk.refusesReads = false) {backlog : List α}
    (held : Frame.Holds disk.unread backlog) (settings : DeliverySettings) (early : List α)
    (moment : Nat) :
    let kept := early.filter Record.fits
    let harmless := kept = [] ∨ max settings.queueCapacity 1 ≤ backlog.length
    ∃ started, ((Outbox.create disk settings).addAll early).start moment = .ok started ∧
      ((∀ course : List (Event α),
          let reached := (⟨started, none, []⟩ : Shipping α).after course
          reached.outbox.queueOnly = true →
            reached.outbox.log.unread = [] ∧ reached.outbox.overflow = #[]) ↔ harmless) ∧
      (harmless → ∀ course : List (Event α),
        let reached := (⟨started, none, []⟩ : Shipping α).after course
        ∃ waiting, Frame.Holds reached.outbox.log.unread waiting ∧
          reached.settled ++ reached.outbox.ring.toList ++ waiting ++
              reached.outbox.overflow.toList =
            backlog ++ kept ++ course.flatMap Event.admitted) ∧
      (¬ harmless → ∀ record, Record.fits record = true →
        let reached := (⟨started, none, []⟩ : Shipping α).step (.add record)
        reached.outbox.ring.toList = backlog ++ [record] ∧
          reached.outbox.overflow.toList = kept) := by
  intro kept harmless
  have fitting : ∀ record ∈ kept.toArray.toList, Record.fits record = true :=
    fun _ member => (List.mem_filter.mp member).2
  obtain ⟨started, succeeded, keeps, items, capacity, aside, running, _, direct⟩ :=
    Outbox.start_aside_spec sound nameable gives held settings fitting moment
  rw [← Outbox.addAll_create] at succeeded
  have sorted : harmless → ∀ course : List (Event α), ∃ waiting,
      (⟨started, none, []⟩ : Shipping α).after course |>.Ledger waiting
        (backlog ++ kept ++ course.flatMap Event.admitted) := by
    intro still course
    have alone : started.queueOnly = true →
        backlog.drop (max settings.queueCapacity 1) = [] ∧ started.overflow = #[] := by
      intro only
      have room := direct.mp only
      refine ⟨List.drop_eq_nil_of_le (Nat.le_of_lt room), ?_⟩
      rcases still with none | full
      · rw [aside, none]
      · omega
    have contents : started.contents (backlog.drop (max settings.queueCapacity 1)) =
        backlog ++ kept := by
      rw [Outbox.contents, items, List.take_append_drop, aside]
    have ledger : Shipping.Ledger ⟨started, none, []⟩ _ (backlog ++ kept) :=
      .of_keeps (keeps.direct alone) running contents
    obtain ⟨waiting, last, _⟩ := ledger.after course
    exact ⟨waiting, last⟩
  refine ⟨started, succeeded, ⟨?_, ?_⟩, ?_, ?_⟩
  · intro always
    by_cases room : backlog.length < max settings.queueCapacity 1
    · have vacant := (always [] (direct.mpr room)).2
      have none : kept.toArray = #[] := aside.symm.trans vacant
      exact .inl (by simpa using none)
    · exact .inr (Nat.le_of_not_lt room)
  · intro still course reached only
    obtain ⟨waiting, last⟩ := sorted still course
    obtain ⟨rfl, vacant⟩ := last.keeps.alone only
    exact ⟨last.keeps.held.eq_nil, vacant⟩
  · intro still course
    obtain ⟨waiting, last⟩ := sorted still course
    refine ⟨waiting, last.keeps.held, ?_⟩
    rw [← last.balance, Outbox.contents]
    simp only [List.append_assoc]
  · intro overtakes record fits
    have room : backlog.length < max settings.queueCapacity 1 :=
      Nat.lt_of_not_le (not_or.mp overtakes).2
    have queued : started.ring.toList = backlog :=
      items.trans (List.take_of_length_le (Nat.le_of_lt room))
    have vacancy : started.ring.isFull = false := by
      rw [← Bool.not_eq_true, keeps.ring.isFull_iff]
      dsimp only
      rw [queued, capacity]
      omega
    have added : started.add record = { started with ring := started.ring.push record } := by
      simp [Outbox.add, Outbox.takeIn, fits, direct.mpr room, vacancy]
    simp only [Shipping.step, added]
    rw [RingBuffer.toList_push keeps.ring vacancy record, queued, aside]
    exact ⟨rfl, rfl⟩

/-- A record that was added before the start stays behind the one in the log where that fills the
ring, and is overtaken where it does not. -/
theorem direct_mode_iff_of_sampleDisk :
    (∃ started, ((Outbox.create sampleDisk { queueCapacity := 1 }).addAll
        [(⟨[3]⟩ : Octets)]).start 0 = .ok started ∧
      ∀ course : List (Event Octets),
        let reached := (⟨started, none, []⟩ : Shipping Octets).after course
        reached.outbox.queueOnly = true →
          reached.outbox.log.unread = [] ∧ reached.outbox.overflow = #[]) ∧
    ∃ started, ((Outbox.create sampleDisk { queueCapacity := 2 }).addAll
        [(⟨[3]⟩ : Octets)]).start 0 = .ok started ∧
      ((⟨started, none, []⟩ : Shipping Octets).step (.add ⟨[4]⟩)).outbox.ring.toList =
        [⟨[2]⟩, ⟨[4]⟩] := by
  have sound : sampleDisk.Sound := by
    intro identity named
    cases named
    decide
  have nameable : sampleDisk.log ≠ .barred := by decide
  have unread : sampleDisk.unread = Frame.ofRecords [(⟨[2]⟩ : Octets)] := by decide +kernel
  have held : Frame.Holds sampleDisk.unread [(⟨[2]⟩ : Octets)] := by
    rw [unread]
    exact .ofRecords [(⟨[2]⟩ : Octets)]
  constructor
  · obtain ⟨started, succeeded, exactly, _⟩ :=
      direct_mode_iff sound nameable rfl held { queueCapacity := 1 } [⟨[3]⟩] 0
    exact ⟨started, succeeded, exactly.mpr (.inr (by decide))⟩
  · obtain ⟨started, succeeded, _, _, overtakes⟩ :=
      direct_mode_iff sound nameable rfl held { queueCapacity := 2 } [⟨[3]⟩] 0
    exact ⟨started, succeeded, (overtakes (by decide) ⟨[4]⟩ (by decide)).1⟩

/-- A record is added, the outbox is started over an empty directory, and another record is added:
the start opens the direct way to the ring, and the second record is settled first. -/
theorem early_record_is_overtaken :
    (((Outbox.create {} { queueCapacity := 4 }).addAll [(⟨[7]⟩ : Octets)]).start 0).toOption.map
        (fun started => (started.queueOnly, started.overflow,
          ((⟨started, none, []⟩ : Shipping Octets).after
            [.add ⟨[8]⟩, .offer, .answer .accepted, .offer, .offer, .answer .accepted]).settled)) =
      some (true, #[⟨[7]⟩], [⟨[8]⟩, ⟨[7]⟩]) := by
  decide +kernel

end TrafficMeter.Delivery
