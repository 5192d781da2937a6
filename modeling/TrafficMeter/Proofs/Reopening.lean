/-
Module: TrafficMeter.Proofs.Reopening
Purpose: What a log object finds that takes over the path of another one.  A log that was opened and
  then only stored to is found again as it was, unless the offset file names a position past the end
  of the log: such a position counts as zero, but stays in the file, and counts once the log has grown
  past it.
Main exports: Log.stores_spec, Log.takeOver_spec, reopening_agrees_iff
-/
import TrafficMeter.Proofs.LogRefinement

namespace TrafficMeter.Spool

variable {α : Type} [Record α]

theorem Disk.AgreesBeside.trans {first second third : Disk} (one : AgreesBeside first second)
    (two : AgreesBeside second third) : AgreesBeside first third where
  offset := two.offset.trans one.offset
  temporary := two.temporary.trans one.temporary
  refusesAppends := two.refusesAppends.trans one.refusesAppends
  refusesReads := two.refusesReads.trans one.refusesReads

namespace Log

/-- A fresh log opens whatever can be opened, at its end of whole frames. -/
theorem exists_opened {disk : Disk} (sound : disk.Sound) (openable : disk.Openable)
    (threshold : Nat) :
    ∃ opened : Log, opened.Ready ∧
      (∀ calls : List (Call α),
        (create disk threshold).after (.open :: calls) = opened.after calls) ∧
      opened.content = disk.logContent.take disk.entryOffset ++ Frame.wholePart disk.unread ∧
      opened.unread = Frame.wholePart disk.unread ∧ opened.offset = disk.entryOffset ∧
      disk.AgreesBeside opened.disk := by
  have closed : (create disk threshold).isOpen = false := rfl
  obtain ⟨opened, succeeded, ready, content, unread, offset, _, agrees⟩ :=
    open_cuts closed sound openable
  refine ⟨opened, ready, fun calls => ?_, content, unread, offset, agrees⟩
  have called : ((create disk threshold).call (.open : Call α)).2 = opened := by
    rw [call, succeeded]
    rfl
  rw [after, List.foldl_cons, called]
  rfl

/-- Stores append what they are given, and change nothing else. -/
theorem stores_spec {log : Log} (ready : log.Ready) (takes : log.disk.refusesAppends = false)
    (batches : List (List α)) :
    let grown := log.after (batches.map Call.store)
    grown.Ready ∧ grown.content = log.content ++ Frame.ofRecords batches.flatten ∧
      grown.offset = log.offset ∧ log.disk.AgreesBeside grown.disk := by
  induction batches generalizing log with
  | nil => exact ⟨ready, (List.append_nil _).symm, rfl, .refl _⟩
  | cons batch later ih =>
      obtain ⟨next, succeeded, standing, content, offset, _, agrees⟩ :=
        store_spec ready takes batch
      have called : (log.call (.store batch)).2 = next := by
        rw [call, succeeded]
        rfl
      obtain ⟨ready', content', offset', agrees'⟩ :=
        ih standing (agrees.refusesAppends.trans takes)
      simp only [List.map_cons, after, List.foldl_cons, called, List.flatten_cons,
        Frame.ofRecords_append, ← List.append_assoc, ← content]
      exact ⟨ready', content', offset'.trans offset, agrees.trans agrees'⟩

/-- A new log object over the path of an open one, closed before or not, finds the same unread bytes
when it finds the same offset.  It does so if the offset file tells the offset, or if it names a
position past the end of a log that is read from its beginning. -/
theorem takeOver_spec {log : Log} (ready : log.Ready)
    (gives : log.disk.refusesReads = false) (whole : Frame.wholePart log.unread = log.unread)
    (threshold : Nat) {parting : List (Call α)} (parts : parting = [] ∨ parting = [.close]) :
    let again := log.after (parting ++ [.reopen threshold, .open])
    again.Ready ∧ log.disk.AgreesBeside again.disk ∧
      (again.offset = log.offset → again.unread = log.unread) ∧
      (again.offset = log.offset ↔ log.disk.storedOffset = log.offset ∨
        log.offset = 0 ∧ log.content.length < log.disk.storedOffset) := by
  intro again
  obtain ⟨opened, standing, takes, _, unread, offset, agrees⟩ :=
    exists_opened (α := α) ready.sound (Disk.openable_of_reads ready.nameable gives) threshold
  have same : again = opened := by
    rcases parts with rfl | rfl <;> exact takes []
  rw [same]
  refine ⟨standing, agrees, fun found => ?_, ?_⟩
  · rw [unread, Disk.unread, ← offset, found, ← ready.content_eq]
    exact whole
  · have within := ready.within
    rw [offset, Disk.entryOffset, ← ready.content_eq]
    split <;> omega

end Log

/-! ### What is found again -/

/-- Whatever lies in the directory, a fresh log opens, takes in stores, and is followed by another log
object on the same path, after it was closed or without that.  The new object finds the same offset
and the same unread bytes exactly if the offset file named a position inside the log from the
beginning, or still names one past its end.  Where it finds the same bytes, it loads what was stored,
behind what was unread when the log was first opened.

A position past the end stays in the offset file while the log is read from its beginning, so the log
may grow past it. -/
theorem reopening_agrees_iff [LawfulRecord α] {disk : Disk} (sound : disk.Sound)
    (nameable : disk.log ≠ .barred) (takes : disk.refusesAppends = false)
    (gives : disk.refusesReads = false) (threshold other : Nat) (batches : List (List α))
    {parting : List (Log.Call α)} (parts : parting = [] ∨ parting = [.close]) :
    let grown := (Log.create disk threshold).after (.open :: batches.map Log.Call.store)
    let again := grown.after (parting ++ [.reopen other, .open])
    grown.isOpen = true ∧ again.isOpen = true ∧
      (again.offset = grown.offset ∧ again.unread = grown.unread ↔
        disk.storedOffset ≤ disk.logContent.length ∨
          (Frame.wholePart disk.logContent).length + (Frame.ofRecords batches.flatten).length <
            disk.storedOffset) ∧
      (again.unread = grown.unread →
        ∀ old : List α, Frame.Holds (Frame.wholePart disk.unread) old → ∀ limit ≠ 0, ∃ moved,
          again.load limit = .ok ((old ++ batches.flatten.filter Record.fits).take limit, moved)) := by
  intro grown again
  obtain ⟨first, opened, begins, content, unread, offset, agrees⟩ :=
    Log.exists_opened (α := α) sound (Disk.openable_of_reads nameable gives) threshold
  obtain ⟨ready, stored, moved, agrees'⟩ :=
    Log.stores_spec opened (agrees.refusesAppends.trans takes) batches
  rw [← begins] at ready stored moved agrees'
  have beside := agrees.trans agrees'
  have rest : grown.unread = Frame.wholePart disk.unread ++ Frame.ofRecords batches.flatten := by
    rw [Log.unread_of_content_append opened stored moved, unread]
  have whole : Frame.wholePart grown.unread = grown.unread := by
    rw [rest, Frame.wholePart_wholePart_append, Frame.wholePart_ofRecords]
  obtain ⟨standing, agrees'', sameBytes, sameOffset⟩ := Log.takeOver_spec ready
    (beside.refusesReads.trans gives) whole other parts
  rw [beside.storedOffset_eq, moved, offset] at sameOffset
  refine ⟨ready.isOpen, standing.isOpen, ?_, fun same old held limit positive => ?_⟩
  · have both : again.offset = grown.offset ∧ again.unread = grown.unread ↔
        again.offset = grown.offset := ⟨And.left, fun found => ⟨found, sameBytes found⟩⟩
    rw [both, moved, offset, sameOffset, stored, content, Disk.entryOffset]
    by_cases inside : disk.storedOffset ≤ disk.logContent.length
    · simp [inside, Nat.not_lt_of_le inside]
    · have beyond : disk.logContent.length < disk.storedOffset := Nat.lt_of_not_le inside
      have start : disk.unread = disk.logContent := by
        simp [Disk.unread, Disk.entryOffset, beyond]
      have named : disk.storedOffset ≠ 0 := by omega
      simp [inside, beyond, start, named]
  · have readable : again.disk.refusesReads = false :=
      agrees''.refusesReads.trans (beside.refusesReads.trans gives)
    have holds : Frame.Holds again.unread (old ++ batches.flatten.filter Record.fits) := by
      rw [same, rest]
      exact held.append (Frame.Holds.ofRecords batches.flatten)
    obtain ⟨further, loaded, _⟩ := Log.load_held standing readable positive holds
    exact ⟨further, loaded⟩

/-- A log with one whole frame and a torn one, and an offset past its end. -/
def tornDisk : Disk where
  files := [[1, 0, 97, 5, 0].toByteArray]
  log := .file 0
  offset := .file (Bytes.littleEndian 8 9)

theorem reopening_agrees_iff_of_tornDisk :
    let grown := (Log.create tornDisk 100).after [.open, .store [(⟨[98]⟩ : Octets)]]
    let again := grown.after (α := Octets) [.close, .reopen 7, .open]
    again.offset = grown.offset ∧ again.unread = grown.unread ∧
      ∃ moved, again.load 9 = .ok ([(⟨[97]⟩ : Octets), ⟨[98]⟩], moved) := by
  intro grown again
  have sound : tornDisk.Sound := by
    intro identity named
    cases named
    decide
  have nameable : tornDisk.log ≠ .barred := by decide
  obtain ⟨_, _, agrees, loaded⟩ := reopening_agrees_iff sound nameable rfl rfl 100 7
    [[(⟨[98]⟩ : Octets)]] (.inr rfl : [Log.Call.close] = [] ∨ [Log.Call.close] = [.close])
  have short : (Frame.wholePart tornDisk.logContent).length +
      (Frame.ofRecords [(⟨[98]⟩ : Octets)]).length < tornDisk.storedOffset := by decide +kernel
  have same := agrees.mpr (.inr short)
  have whole : Frame.wholePart tornDisk.unread = Frame.ofRecords [(⟨[97]⟩ : Octets)] := by
    decide +kernel
  have held : Frame.Holds (Frame.wholePart tornDisk.unread) [(⟨[97]⟩ : Octets)] := by
    rw [whole]
    exact .ofRecords [(⟨[97]⟩ : Octets)]
  exact ⟨same.1, same.2, loaded same.2 _ held 9 (by decide)⟩

/-- An offset file that names the end of the first record, before there is one: two records are
stored behind the offset zero, and the next log object begins with the second. -/
theorem reopening_skips_stored_record :
    let disk : Disk := { offset := .file (Bytes.littleEndian 8 3) }
    let grown := (Log.create disk 100).after [.open, .store [(⟨[97]⟩ : Octets), ⟨[98]⟩]]
    let again := grown.after (α := Octets) [.reopen 100, .open]
    (grown.isOpen = true ∧ grown.offset = 0 ∧ grown.unread = [1, 0, 97, 1, 0, 98]) ∧
      (again.isOpen = true ∧ again.offset = 3 ∧ again.unread = [1, 0, 98]) ∧
      (again.call (.load 9)).1 = .ok [(⟨[98]⟩ : Octets)] := by
  decide +kernel

end TrafficMeter.Spool
