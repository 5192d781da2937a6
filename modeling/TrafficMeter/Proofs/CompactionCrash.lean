/-
Module: TrafficMeter.Proofs.CompactionCrash
Purpose: What is left of a log when the process dies during a compaction, and what a fresh log finds
  there.  The rename replaces the log at once, but the offset file still names a position in the old
  log then: the new one is read from that position until the offset file is written, too.
Main exports: Disk.Interrupted, Disk.Finds, Disk.interrupted_compaction, Log.CrashAtomic,
  compaction_crash_atomic_iff
-/
import TrafficMeter.Proofs.Reopening

namespace TrafficMeter.Spool

variable {α : Type} [Record α]

/-! ### Dying on the way -/

namespace Disk

/-- A step that was begun and not completed.  A rename happens or does not. -/
inductive Halfway (disk : Disk) : Effect → Disk → Prop where
  | temporary {content part : Bytes} (front : part <+: content)
      (free : disk.temporary ≠ .directory) :
      Halfway disk (.writeTemporary content) { disk with temporary := .file part }
  | offset {offset : Nat} {part : Bytes} (front : part <+: Bytes.littleEndian 8 offset)
      (torn : part ≠ Bytes.littleEndian 8 offset) (free : disk.offset ≠ .directory) :
      Halfway disk (.writeOffset offset) { disk with offset := .file part }

/-- The directory that is left when the process dies before, between, during or after steps. -/
inductive Interrupted : Disk → List Effect → Disk → Prop where
  | here {disk : Disk} {effects : List Effect} : Interrupted disk effects disk
  | within {disk left : Disk} {effect : Effect} {later : List Effect}
      (halfway : Halfway disk effect left) : Interrupted disk (effect :: later) left
  | later {disk next left : Disk} {effect : Effect} {later : List Effect}
      (performed : disk.perform effect = .ok next) (interrupted : Interrupted next later left) :
      Interrupted disk (effect :: later) left

/-- Dying between two steps leaves what the steps before made of the directory. -/
theorem interrupted_applyAll_take (disk : Disk) (effects : List Effect) (count : Nat) :
    Interrupted disk effects (disk.applyAll (effects.take count)).2 := by
  induction effects generalizing disk count with
  | nil =>
      rw [List.take_nil]
      exact .here
  | cons effect later ih =>
      cases count with
      | zero => exact .here
      | succ count =>
          rw [List.take_succ_cons, applyAll]
          cases performed : disk.perform effect with
          | ok next => exact .later performed (ih next count)
          | error reason => exact .here

/-! ### What is found -/

/-- What a log that is opened here has to go by. -/
structure Shows (disk : Disk) (content : Bytes) (offset : Nat) : Prop where
  sound : disk.Sound
  nameable : disk.log ≠ .barred
  givesReads : disk.refusesReads = false
  content_eq : disk.logContent = content
  offset_eq : disk.storedOffset = offset

/-- A fresh log opens here, with these unread bytes, and loads these records. -/
def Finds (disk : Disk) (bytes : Bytes) (records : List α) : Prop :=
  ∀ threshold, ∃ opened, (Log.create disk threshold).open = .ok opened ∧ opened.unread = bytes ∧
    ∀ limit ≠ 0, ∃ moved, opened.load limit = .ok (records.take limit, moved)

/-- What a reopened log finds on a sound disk is the whole frames from the stored offset on. -/
theorem Finds.eq_wholePart {disk : Disk} {bytes : Bytes} {records : List α}
    (finds : disk.Finds bytes records) (sound : disk.Sound) (openable : disk.Openable) :
    bytes = Frame.wholePart disk.unread := by
  have closed : (Log.create disk 0).isOpen = false := rfl
  obtain ⟨opened, succeeded, unread, _⟩ := finds 0
  obtain ⟨other, succeeded', _, _, unread', _⟩ := Log.open_cuts closed sound openable
  cases succeeded.symm.trans succeeded'
  exact unread.symm.trans unread'

namespace Shows

variable {disk : Disk} {content : Bytes} {offset : Nat}

theorem openable (shown : disk.Shows content offset) : disk.Openable :=
  openable_of_reads shown.nameable shown.givesReads

theorem unread_eq (shown : disk.Shows content offset) :
    disk.unread = content.drop (if content.length < offset then 0 else offset) := by
  rw [unread, entryOffset, shown.content_eq, shown.offset_eq]

/-- What is found is what stands in the log, if that is whole frames of decodable records. -/
theorem finds (shown : disk.Shows content offset) {records : List α}
    (held : Frame.Holds (Frame.wholePart disk.unread) records) :
    disk.Finds (Frame.wholePart disk.unread) records := by
  intro threshold
  have closed : (Log.create disk threshold).isOpen = false := rfl
  obtain ⟨opened, succeeded, ready, _, unread, _, _, agrees⟩ :=
    Log.open_cuts closed shown.sound shown.openable
  refine ⟨opened, succeeded, unread, fun limit positive => ?_⟩
  have gives := agrees.refusesReads.trans shown.givesReads
  obtain ⟨moved, loaded, _⟩ := Log.load_held ready gives positive (unread ▸ held)
  exact ⟨moved, loaded⟩

/-- A stored offset inside the content is where the reopened log reads on. -/
theorem finds_inside (shown : disk.Shows content offset) (inside : offset ≤ content.length)
    {records : List α} (held : Frame.Holds (content.drop offset) records) :
    disk.Finds (content.drop offset) records := by
  have rest : Frame.wholePart disk.unread = content.drop offset := by
    rw [shown.unread_eq, if_neg (Nat.not_lt_of_le inside), held.wholePart_eq]
  exact rest ▸ shown.finds (rest.symm ▸ held)

/-- An offset past the end counts as zero. -/
theorem finds_all (shown : disk.Shows content offset)
    (start : offset = 0 ∨ content.length < offset) {records : List α}
    (held : Frame.Holds content records) : disk.Finds content records := by
  have rest : Frame.wholePart disk.unread = content := by
    rw [shown.unread_eq]
    rcases start with rfl | beyond
    · simp [held.wholePart_eq]
    · simp [beyond, held.wholePart_eq]
  exact rest ▸ shown.finds (rest.symm ▸ held)

/-- The log and the offset file are all that counts. -/
theorem congr (shown : disk.Shows content offset) {other : Disk} (files : other.files = disk.files)
    (log : other.log = disk.log) (beside : other.offset = disk.offset)
    (reads : other.refusesReads = disk.refusesReads) : other.Shows content offset where
  sound := by
    intro identity named
    rw [files]
    exact shown.sound identity (log.symm.trans named)
  nameable := log ▸ shown.nameable
  givesReads := reads.trans shown.givesReads
  content_eq := by
    rw [← shown.content_eq]
    simp only [logContent, logFile?, log, file, files]
  offset_eq := by
    rw [← shown.offset_eq]
    simp only [storedOffset, offsetContent?, beside]

/-- Another offset file over the same log. -/
theorem withOffset (shown : disk.Shows content offset) {sidecar : Sidecar} {other : Nat}
    (stored : { disk with offset := sidecar }.storedOffset = other) :
    { disk with offset := sidecar }.Shows content other where
  sound := shown.sound
  nameable := shown.nameable
  givesReads := shown.givesReads
  content_eq := shown.content_eq
  offset_eq := stored

/-! Steps of a compaction, whole and half -/

/-- The temporary file is beside the log: writing it shows nothing. -/
theorem writeTemporary (shown : disk.Shows content offset) (bytes : Bytes) :
    { disk with temporary := .file bytes }.Shows content offset :=
  shown.congr rfl rfl rfl rfl

/-- Nor does a temporary file written in part. -/
theorem halfway_writeTemporary (shown : disk.Shows content offset) {left : Disk} {bytes : Bytes}
    (halfway : disk.Halfway (.writeTemporary bytes) left) : left.Shows content offset := by
  cases halfway
  exact shown.congr rfl rfl rfl rfl

/-- The rename puts the new file under the name of the log, and does not change the offset file. -/
theorem renameTemporary (shown : disk.Shows content offset) (bytes : Bytes) :
    { disk.newLog bytes with temporary := .absent }.Shows bytes offset := by
  refine ⟨?_, by simp [newLog], shown.givesReads, ?_, shown.offset_eq⟩
  · intro identity named
    cases named
    simp [newLog]
  · exact (logContent_of_file rfl).trans (content_newLog disk bytes)

theorem resetOffset (shown : disk.Shows content offset) : (disk.writeOffset 0).Shows content 0 := by
  rw [Disk.writeOffset]
  split
  · next beside => exact { shown with offset_eq := by simp [storedOffset, offsetContent?, beside] }
  · exact shown.withOffset (storedOffset_of_file (by decide) rfl)

/-- An offset file of fewer than eight octets counts as zero. -/
theorem halfway_writeOffset (shown : disk.Shows content offset) {left : Disk} {target : Nat}
    (halfway : disk.Halfway (.writeOffset target) left) : left.Shows content 0 := by
  cases halfway with
  | @offset _ part front torn _ =>
      apply shown.withOffset
      have short : part.length ≠ 8 := fun complete =>
        torn (front.eq_of_length (complete.trans (Bytes.length_littleEndian 8 target).symm))
      simp [storedOffset, offsetContent?, short]

end Shows

/-- With nothing to be done there is nothing to interrupt. -/
theorem interrupted_nil {disk left : Disk} : Interrupted disk [] left ↔ left = disk := by
  constructor
  · intro interrupted
    cases interrupted
    rfl
  · rintro rfl
    exact .here

/-- An interruption comes before an effect, halfway through it, or after it among the later ones;
the last only where the effect succeeded. -/
theorem interrupted_cons {disk left : Disk} {effect : Effect} {later : List Effect} :
    Interrupted disk (effect :: later) left ↔
      left = disk ∨ Halfway disk effect left ∨
        ∃ next, disk.perform effect = .ok next ∧ Interrupted next later left := by
  constructor
  · intro interrupted
    cases interrupted with
    | here => exact .inl rfl
    | within halfway => exact .inr (.inl halfway)
    | later performed interrupted => exact .inr (.inr ⟨_, performed, interrupted⟩)
  · rintro (rfl | halfway | ⟨next, performed, interrupted⟩)
    · exact .here
    · exact .within halfway
    · exact .later performed interrupted

/-- Wherever a compaction stops, the directory shows the old log with its offset, the new log with
the offset of the old one, or the new log from its beginning. -/
theorem interrupted_compaction {disk left : Disk} {content bytes : Bytes} {offset : Nat}
    (shown : disk.Shows content offset) (free : disk.temporary ≠ .directory)
    (interrupted :
      Interrupted disk [.writeTemporary bytes, .renameTemporary, .writeOffset 0] left) :
    left.Shows content offset ∨ left.Shows bytes offset ∨ left.Shows bytes 0 := by
  have replaced := shown.renameTemporary bytes
  rcases interrupted_cons.mp interrupted with rfl | halfway | ⟨written, writes, interrupted⟩
  · exact .inl shown
  · exact .inl (shown.halfway_writeTemporary halfway)
  cases (perform_writeTemporary free bytes).symm.trans writes
  rcases interrupted_cons.mp interrupted with rfl | halfway | ⟨renamed, renames, interrupted⟩
  · exact .inl (shown.writeTemporary bytes)
  · cases halfway
  cases (perform_renameTemporary shown.nameable bytes).symm.trans renames
  rcases interrupted_cons.mp interrupted with rfl | halfway | ⟨reset, resets, interrupted⟩
  · exact .inr (.inl replaced)
  · exact .inr (.inr (replaced.halfway_writeOffset halfway))
  cases resets
  cases interrupted_nil.mp interrupted
  exact .inr (.inr replaced.resetOffset)

end Disk

/-! ### Crash atomicity -/

/-- The frames from an offset on are all the bytes only if it is the beginning, or lies past the end. -/
theorem Frame.eq_zero_or_lt_of_wholePart_drop {bytes : Bytes} {offset : Nat}
    (same : wholePart (bytes.drop offset) = bytes) : offset = 0 ∨ bytes.length < offset := by
  have shorter := (wholePart_isPrefix (bytes.drop offset)).length_le
  rw [same, List.length_drop] at shorter
  omega

namespace Log

/-- Wherever a compaction stops, a fresh log finds the records that were unread, or those with the
new ones in front and behind. -/
def CrashAtomic (log : Log) (before old after : List α) : Prop :=
  ∀ left, log.disk.Interrupted (log.compaction before after) left →
    left.Finds log.unread old ∨
      left.Finds (Frame.ofRecords before ++ log.unread ++ Frame.ofRecords after)
        (before.filter Record.fits ++ old ++ after.filter Record.fits)

/-- An open log whose offset is stored shows a successor its own content and offset. -/
theorem Ready.shows {log : Log} (ready : log.Ready) (gives : log.disk.refusesReads = false)
    (stored : log.disk.storedOffset = log.offset) : log.disk.Shows log.content log.offset :=
  ⟨ready.sound, ready.nameable, gives, ready.content_eq.symm, stored⟩

variable {log : Log}

theorem crashAtomic_iff [LawfulRecord α] (ready : log.Ready)
    (stored : log.disk.storedOffset = log.offset) (free : log.disk.temporary ≠ .directory)
    (gives : log.disk.refusesReads = false) {old : List α} (held : Frame.Holds log.unread old)
    (before after : List α) :
    let spliced := Frame.ofRecords before ++ log.unread ++ Frame.ofRecords after
    log.CrashAtomic before old after ↔
      log.offset = 0 ∨ spliced.length < log.offset ∨
        Frame.wholePart (spliced.drop log.offset) = log.unread := by
  intro spliced
  have shown := ready.shows gives stored
  have both : Frame.Holds spliced (before.filter Record.fits ++ old ++ after.filter Record.fits) :=
    ((Frame.Holds.ofRecords before).append held).append (Frame.Holds.ofRecords after)
  constructor
  · intro atomic
    -- the directory between the rename and the writing of the offset
    obtain ⟨left, between, replaced⟩ : ∃ left : Disk,
        log.disk.Interrupted (log.compaction before after) left ∧ left.Shows spliced log.offset :=
      ⟨_, .later (Disk.perform_writeTemporary free spliced)
        (.later (Disk.perform_renameTemporary shown.nameable spliced) .here),
        shown.renameTemporary spliced⟩
    by_cases beyond : spliced.length < log.offset
    · exact .inr (.inl beyond)
    have rest := replaced.unread_eq
    rw [if_neg beyond] at rest
    rcases atomic _ between with finds | finds
    · have whole := finds.eq_wholePart replaced.sound replaced.openable
      exact .inr (.inr (rest ▸ whole.symm))
    · have whole := finds.eq_wholePart replaced.sound replaced.openable
      rw [rest] at whole
      rcases Frame.eq_zero_or_lt_of_wholePart_drop whole.symm with start | further
      · exact .inl start
      · exact absurd further beyond
  · intro harmless left interrupted
    rcases Disk.interrupted_compaction shown free interrupted with old | new | new
    · exact .inl (old.finds_inside ready.within held)
    · by_cases beyond : log.offset = 0 ∨ spliced.length < log.offset
      · exact .inr (new.finds_all beyond both)
      · obtain ⟨_, inside⟩ := not_or.mp beyond
        rcases harmless with start | further | same
        · exact absurd (.inl start) beyond
        · exact absurd (.inr further) beyond
        · have rest : Frame.wholePart left.unread = log.unread := by
            rw [new.unread_eq, if_neg inside, same]
          exact .inl (rest ▸ new.finds (rest.symm ▸ held))
    · exact .inr (new.finds_all (.inl rfl) both)

end Log

/-- A compaction of a log that keeps its offset in the offset file is crash-atomic exactly if the old
offset does no harm to the new log: nothing was read, or it lies past the end of the new log, or the
new log reads from there as the old one did.  For a compaction that only drops what was read, this
says that nothing was read, or more than what is left. -/
theorem compaction_crash_atomic_iff [LawfulRecord α] {log : Log} (ready : log.Ready)
    (stored : log.disk.storedOffset = log.offset) (free : log.disk.temporary ≠ .directory)
    (gives : log.disk.refusesReads = false) {old : List α} (held : Frame.Holds log.unread old)
    (before after : List α) :
    let spliced := Frame.ofRecords before ++ log.unread ++ Frame.ofRecords after
    (log.CrashAtomic before old after ↔
      log.offset = 0 ∨ spliced.length < log.offset ∨
        Frame.wholePart (spliced.drop log.offset) = log.unread) ∧
    (log.CrashAtomic [] old [] ↔ log.offset = 0 ∨ log.unread.length < log.offset) := by
  intro spliced
  have exactly := Log.crashAtomic_iff ready stored free gives held
  refine ⟨exactly before after, (exactly [] []).trans ?_⟩
  simp only [Frame.ofRecords_nil, List.nil_append, List.append_nil]
  constructor
  · rintro (start | beyond | same)
    · exact .inl start
    · exact .inr beyond
    · exact Frame.eq_zero_or_lt_of_wholePart_drop same
  · rintro (start | beyond)
    · exact .inl start
    · exact .inr (.inl beyond)

/-- Two of three records were read. -/
def readLog : Log where
  disk := {
    files := [(Frame.ofRecords [(⟨[97]⟩ : Octets), ⟨[98]⟩, ⟨[99]⟩]).toByteArray]
    log := .file 0
    offset := .file (Bytes.littleEndian 8 6) }
  threshold := 100
  handle := some 0
  offset := 6

theorem compaction_crash_atomic_iff_of_readLog :
    readLog.CrashAtomic [] [(⟨[99]⟩ : Octets)] [] ∧
      ¬ readLog.CrashAtomic [(⟨[100]⟩ : Octets)] [⟨[99]⟩] [] := by
  have ready : readLog.Ready := ⟨⟨0, rfl, rfl, by decide⟩, by decide +kernel⟩
  have unread : readLog.unread = Frame.ofRecords [(⟨[99]⟩ : Octets)] := by decide +kernel
  have held : Frame.Holds readLog.unread [(⟨[99]⟩ : Octets)] := by
    rw [unread]
    exact .ofRecords [(⟨[99]⟩ : Octets)]
  obtain ⟨exactly, bare⟩ := compaction_crash_atomic_iff ready (by decide +kernel) (by decide) rfl
    held [(⟨[100]⟩ : Octets)] []
  refine ⟨bare.mpr (.inr ?_), fun atomic => ?_⟩
  · rw [unread]
    decide
  · have harm := exactly.mp atomic
    rw [unread] at harm
    revert harm
    decide +kernel

/-- Three records are stored and one is read.  When the process dies between the rename and the
writing of the offset, the second record is skipped. -/
theorem compaction_crash_skips_record :
    let log := (Log.create {} 100).after
      [.open, .store [(⟨[97]⟩ : Octets), ⟨[98]⟩, ⟨[99]⟩], .load 1]
    let effects := log.compaction ([] : List Octets) []
    let left := (log.disk.applyAll (effects.take 2)).2
    log.disk.Interrupted effects left ∧
      log.unread = Frame.ofRecords [(⟨[98]⟩ : Octets), ⟨[99]⟩] ∧
      (Log.create left 100).replies [.open, .load 9] = [.ok [], .ok [(⟨[99]⟩ : Octets)]] := by
  intro log effects left
  exact ⟨Disk.interrupted_applyAll_take log.disk effects 2, by decide +kernel, by decide +kernel⟩

end TrafficMeter.Spool
