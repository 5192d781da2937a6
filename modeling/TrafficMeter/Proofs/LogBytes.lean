/-
Module: TrafficMeter.Proofs.LogBytes
Purpose: What the operations of a log do to the bytes of its file, and when they succeed.  An open log
  stands on a file that exists, with its offset inside; every operation keeps this, and changes the
  bytes not read yet as its name says: a store appends, a load takes away from the front, and a
  compaction splices in front and behind, wherever the bytes are kept before and after.
Main exports: Disk.Sound, Disk.Obliging, Disk.unread, Disk.Openable, Log.Ready, Log.open_cuts,
  Log.exists_open_iff, Log.open_spec, Log.store_spec, Log.rewrite_spec, Log.load_eq, Log.load_spec
-/
import TrafficMeter.Proofs.WholeFrames

namespace TrafficMeter.Spool

/-! ### Files -/

namespace Disk

/-- The name of the log does not dangle. -/
def Sound (disk : Disk) : Prop :=
  ∀ identity, disk.log = .file identity → identity < disk.files.length

/-- Nothing in the directory is in the way of the log that lies there. -/
structure Obliging (disk : Disk) : Prop where
  takesAppends : disk.refusesAppends = false
  givesReads : disk.refusesReads = false
  takesTemporary : disk.temporary ≠ .directory
  takesOffset : disk.offset ≠ .directory

theorem obliging_empty : ({} : Disk).Obliging := by
  refine ⟨rfl, rfl, ?_, ?_⟩ <;> intro taken <;> cases taken

/-- Two directories that differ in the log at most. -/
structure AgreesBeside (disk other : Disk) : Prop where
  offset : other.offset = disk.offset
  temporary : other.temporary = disk.temporary
  refusesAppends : other.refusesAppends = disk.refusesAppends
  refusesReads : other.refusesReads = disk.refusesReads

/-- The bytes that the name of the log leads to. -/
def logContent (disk : Disk) : Bytes :=
  (disk.logFile?.map Bytes.ofPacked).getD []

/-- The position from which a log that is opened here is read. -/
def entryOffset (disk : Disk) : Nat :=
  if disk.logContent.length < disk.storedOffset then 0 else disk.storedOffset

/-- The bytes that a log that is opened here has not read yet. -/
def unread (disk : Disk) : Bytes :=
  disk.logContent.drop disk.entryOffset

/-- A log can be opened here: its name does not lead to something else than a file, and where
nothing can be read back, no header of a frame has to be read. -/
structure Openable (disk : Disk) : Prop where
  nameable : disk.log ≠ .barred
  readable : disk.refusesReads = true → disk.unread.length < Frame.headerLength

/-- A log that has a name and can be read can be opened, whatever it holds. -/
theorem openable_of_reads {disk : Disk} (nameable : disk.log ≠ .barred)
    (gives : disk.refusesReads = false) : disk.Openable :=
  ⟨nameable, fun refuses => nomatch gives.symm.trans refuses⟩

theorem Obliging.openable {disk : Disk} (obliging : disk.Obliging) (nameable : disk.log ≠ .barred) :
    disk.Openable :=
  openable_of_reads nameable obliging.givesReads

theorem AgreesBeside.refl (disk : Disk) : AgreesBeside disk disk :=
  ⟨rfl, rfl, rfl, rfl⟩

theorem AgreesBeside.obliging {disk other : Disk} (agrees : AgreesBeside disk other)
    (obliging : disk.Obliging) : other.Obliging := by
  refine ⟨?_, ?_, ?_, ?_⟩
  · rw [agrees.refusesAppends]
    exact obliging.takesAppends
  · rw [agrees.refusesReads]
    exact obliging.givesReads
  · rw [agrees.temporary]
    exact obliging.takesTemporary
  · rw [agrees.offset]
    exact obliging.takesOffset

/-- The position in the offset file is beside the log. -/
theorem AgreesBeside.storedOffset_eq {disk other : Disk} (agrees : AgreesBeside disk other) :
    other.storedOffset = disk.storedOffset := by
  rw [storedOffset, storedOffset, offsetContent?, offsetContent?, agrees.offset]

/-- A log is never entered past its end. -/
theorem entryOffset_le (disk : Disk) : disk.entryOffset ≤ disk.logContent.length := by
  rw [entryOffset]
  split <;> omega

theorem logContent_of_file {disk : Disk} {identity : Nat} (named : disk.log = .file identity) :
    disk.logContent = disk.content identity := by
  rw [logContent, logFile?, named]
  rfl

/-- No log, no bytes. -/
theorem logContent_of_absent {disk : Disk} (absent : disk.log = .absent) : disk.logContent = [] := by
  rw [logContent, logFile?, absent]
  rfl

theorem storedOffset_of_absent {disk : Disk} (absent : disk.offset = .absent) :
    disk.storedOffset = 0 := by
  rw [storedOffset, offsetContent?, absent]

/-- From position zero on, everything is unread. -/
theorem unread_of_storedOffset {disk : Disk} (start : disk.storedOffset = 0) :
    disk.unread = disk.logContent := by
  rw [unread, entryOffset, start, if_neg (Nat.not_lt_zero _), List.drop_zero]

/-- Without a log there is no file for it to name. -/
theorem sound_of_absent {disk : Disk} (absent : disk.log = .absent) : disk.Sound := by
  intro identity named
  cases absent.symm.trans named

/-! Contents after a change -/

theorem content_setContent {disk : Disk} {identity : Nat} (exists_ : identity < disk.files.length)
    (bytes : Bytes) : (disk.setContent identity bytes).content identity = bytes := by
  rw [content, file, setContent, List.getD_eq_getElem?_getD, List.getElem?_set_self exists_,
    Option.getD_some, Bytes.ofPacked_toByteArray]

theorem content_append {disk : Disk} {identity : Nat} (exists_ : identity < disk.files.length)
    (bytes : Bytes) :
    (disk.append identity bytes).content identity = disk.content identity ++ bytes := by
  rw [append_eq, content_setContent exists_]

theorem content_newLog (disk : Disk) (bytes : Bytes) :
    (disk.newLog bytes).content disk.files.length = bytes := by
  rw [content, file, newLog, List.getD_eq_getElem?_getD, List.getElem?_concat_length,
    Option.getD_some, Bytes.ofPacked_toByteArray]

theorem length_files_newLog (disk : Disk) (bytes : Bytes) :
    (disk.newLog bytes).files.length = disk.files.length + 1 := by
  rw [newLog, List.length_append]
  rfl

/-- Only a name that leads to something else than a file cannot be opened. -/
theorem openLog?_eq_none {disk : Disk} : disk.openLog? = none ↔ disk.log = .barred := by
  rw [openLog?]
  split <;> simp_all

/-- Opening by name leads to a file with the bytes of the name, and changes nothing beside. -/
theorem openLog?_spec {disk : Disk} (sound : disk.Sound) (nameable : disk.log ≠ .barred) :
    ∃ identity opened, disk.openLog? = some (identity, opened) ∧ opened.log = .file identity ∧
      identity < opened.files.length ∧ opened.content identity = disk.logContent ∧
      AgreesBeside disk opened := by
  cases named : disk.log with
  | absent =>
      refine ⟨disk.files.length, disk.newLog [], by rw [openLog?, named], rfl, ?_, ?_,
        ⟨rfl, rfl, rfl, rfl⟩⟩
      · rw [length_files_newLog]
        exact Nat.lt_succ_self _
      · rw [content_newLog, logContent, logFile?, named]
        rfl
  | file identity =>
      exact ⟨identity, disk, by rw [openLog?, named], named, sound identity named,
        (logContent_of_file named).symm, .refl disk⟩
  | barred => exact absurd named nameable

/-! Steps -/

/-- Whatever stands in the temporary file's place is written over, unless it is a directory. -/
theorem perform_writeTemporary {disk : Disk} (free : disk.temporary ≠ .directory) (bytes : Bytes) :
    disk.perform (.writeTemporary bytes) = .ok { disk with temporary := .file bytes } := by
  rw [perform]
  split
  · next taken => exact absurd taken free
  · rfl

/-- The rename makes a log of its own of the temporary file, and the old one loses its name. -/
theorem perform_renameTemporary {disk : Disk} (nameable : disk.log ≠ .barred) (bytes : Bytes) :
    { disk with temporary := .file bytes }.perform .renameTemporary =
      .ok { disk.newLog bytes with temporary := .absent } :=
  if_neg nameable

/-- The directory after the steps of a compaction: a new log with nothing read. -/
theorem applyAll_compaction {disk : Disk} (free : disk.temporary ≠ .directory)
    (nameable : disk.log ≠ .barred) (bytes : Bytes) :
    disk.applyAll [.writeTemporary bytes, .renameTemporary, .writeOffset 0] =
      (.ok (), { disk.newLog bytes with
        temporary := .absent
        offset := (disk.writeOffset 0).offset }) := by
  rw [applyAll, perform_writeTemporary free]
  dsimp only
  rw [applyAll, perform_renameTemporary nameable]
  cases beside : disk.offset <;> simp only [applyAll, perform, writeOffset, newLog, beside]

/-- Where the temporary file cannot be written, the steps of a compaction end before the first. -/
theorem applyAll_of_directory {disk : Disk} (taken : disk.temporary = .directory) (bytes : Bytes)
    (later : List Effect) :
    disk.applyAll (.writeTemporary bytes :: later) =
      (.error "the temporary file cannot be written", disk) := by
  rw [applyAll, perform, taken]

/-- Where the log cannot be replaced, they end with the temporary file written. -/
theorem applyAll_of_barred {disk : Disk} (free : disk.temporary ≠ .directory)
    (barred : disk.log = .barred) (bytes : Bytes) (later : List Effect) :
    disk.applyAll (.writeTemporary bytes :: .renameTemporary :: later) =
      (.error "the log cannot be replaced", { disk with temporary := .file bytes }) := by
  rw [applyAll, perform_writeTemporary free]
  simp only [applyAll, perform, if_pos barred]

theorem Obliging.writeOffset_eq {disk : Disk} (obliging : disk.Obliging) (offset : Nat) :
    disk.writeOffset offset = { disk with offset := .file (Bytes.littleEndian 8 offset) } := by
  rw [writeOffset]
  split
  · next taken => exact absurd taken obliging.takesOffset
  · rfl

theorem writeOffset_log (disk : Disk) (offset : Nat) :
    (disk.writeOffset offset).log = disk.log ∧ (disk.writeOffset offset).files = disk.files := by
  rw [writeOffset]
  split <;> exact ⟨rfl, rfl⟩

/-- An offset below 2⁶⁴ is found again in the offset file. -/
theorem storedOffset_of_file {disk : Disk} {offset : Nat} (small : offset < Bytes.bound 8)
    (written : disk.offset = .file (Bytes.littleEndian 8 offset)) : disk.storedOffset = offset := by
  rw [storedOffset, offsetContent?, written]
  exact (if_pos (Bytes.length_littleEndian 8 offset)).trans
    (Bytes.ofLittleEndian_littleEndian 8 offset small)

end Disk

/-! ### Logs -/

/-- Reading does not go past the end. -/
theorem Log.Reading.consumed_le {α : Type} [Record α] (limit : Nat) (bytes : Bytes) :
    (Log.Reading.ofBytes limit bytes : Log.Reading α).consumed ≤ bytes.length := by
  induction limit generalizing bytes with
  | zero => exact Nat.zero_le _
  | succ limit ih =>
      rw [ofBytes]
      split
      · exact Nat.zero_le _
      · next payload rest found =>
          split
          · exact Nat.zero_le _
          · have further := ih rest
            have whole := Frame.length_add_of_next? found
            show Frame.headerLength + payload.length + _ ≤ _
            omega

namespace Log

variable {α : Type} [Record α]

/-- An open log on a file that exists under the name of the log, with its offset inside. -/
structure Ready (log : Log) : Prop where
  named : ∃ identity, log.handle = some identity ∧ log.disk.log = .file identity ∧
    identity < log.disk.files.length
  within : log.offset ≤ log.content.length

theorem content_of_handle {log : Log} {identity : Nat} (handle : log.handle = some identity) :
    log.content = log.disk.content identity := by
  rw [content, file, handle]
  rfl

theorem Ready.isOpen {log : Log} (ready : log.Ready) : log.isOpen = true := by
  obtain ⟨identity, handle, _⟩ := ready.named
  rw [Log.isOpen, handle]
  rfl

theorem Ready.sound {log : Log} (ready : log.Ready) : log.disk.Sound := by
  obtain ⟨identity, _, named, inside⟩ := ready.named
  intro other same
  cases named.symm.trans same
  exact inside

theorem Ready.nameable {log : Log} (ready : log.Ready) : log.disk.log ≠ .barred := by
  obtain ⟨identity, _, named, _⟩ := ready.named
  rw [named]
  intro barred
  cases barred

/-- An open log has the bytes that its name leads to. -/
theorem Ready.content_eq {log : Log} (ready : log.Ready) : log.content = log.disk.logContent := by
  obtain ⟨identity, handle, named, _⟩ := ready.named
  rw [content_of_handle handle, Disk.logContent_of_file named]

theorem length_content (log : Log) : log.content.length = log.file.size :=
  Bytes.length_ofPacked _

theorem Ready.pending_eq {log : Log} (ready : log.Ready) :
    log.pending = .ok log.unread.length := by
  rw [pending, if_pos ready.isOpen, unread, List.length_drop, length_content]

/-- Opening a log cuts off what stands behind the whole frames not read yet, and nothing else. -/
theorem open_cuts {log : Log} (closed : log.isOpen = false) (sound : log.disk.Sound)
    (openable : log.disk.Openable) :
    ∃ opened, log.open = .ok opened ∧ opened.Ready ∧
      opened.content =
        log.disk.logContent.take log.disk.entryOffset ++ Frame.wholePart log.disk.unread ∧
      opened.unread = Frame.wholePart log.disk.unread ∧ opened.offset = log.disk.entryOffset ∧
      opened.threshold = log.threshold ∧ Disk.AgreesBeside log.disk opened.disk := by
  obtain ⟨identity, disk, found, named, inside, content, agrees⟩ :=
    Disk.openLog?_spec sound openable.nameable
  -- the entry offset is kept as a name, or its own case split would go through all that follows
  generalize entered : log.disk.entryOffset = offset
  have within : offset ≤ log.disk.logContent.length := entered ▸ log.disk.entryOffset_le
  have entry : (if (disk.content identity).length < disk.storedOffset then 0
      else disk.storedOffset) = offset := by
    rw [content, agrees.storedOffset_eq, ← entered, Disk.entryOffset]
  have rest : log.disk.unread = log.disk.logContent.drop offset := by rw [Disk.unread, entered]
  have reach : offset + log.disk.unread.length = log.disk.logContent.length := by
    rw [rest, List.length_drop, Nat.add_sub_cancel' within]
  let whole := offset + (Frame.wholePart log.disk.unread).length
  have scanned : Frame.completeEnd log.disk.logContent.length offset
      (log.disk.logContent.drop offset) = whole := by
    rw [← reach, ← rest]
    exact Frame.completeEnd_eq_wholePart _ _
  have kept : log.disk.logContent.take whole =
      log.disk.logContent.take offset ++ Frame.wholePart log.disk.unread := by
    rw [List.take_add, ← rest, ← List.prefix_iff_eq_take.mp (Frame.wholePart_isPrefix _)]
  let cut := if whole < log.disk.logContent.length
    then disk.setContent identity (log.disk.logContent.take whole) else disk
  let opened : Log := { log with disk := cut, handle := some identity, offset }
  have bytes : opened.content = log.disk.logContent.take whole := by
    apply (content_of_handle rfl).trans
    dsimp only [opened, cut]
    split
    · exact Disk.content_setContent inside _
    · next reached => rw [content, List.take_of_length_le (Nat.le_of_not_lt reached)]
  have same : cut.log = .file identity ∧ identity < cut.files.length ∧
      Disk.AgreesBeside log.disk cut := by
    dsimp only [cut]
    split
    · refine ⟨named, ?_, agrees.offset, agrees.temporary, agrees.refusesAppends,
        agrees.refusesReads⟩
      simpa only [Disk.setContent, List.length_set] using inside
    · exact ⟨named, inside, agrees⟩
  have front : (log.disk.logContent.take offset).length = offset := List.length_take_of_le within
  refine ⟨opened, ?_, ⟨⟨identity, rfl, same.1, same.2.1⟩, ?_⟩, bytes.trans kept, ?_, rfl, rfl, same.2.2⟩
  · rw [Log.open, if_neg (by rw [closed]; exact Bool.false_ne_true), found]
    have readable : ¬ (disk.refusesReads = true ∧
        Frame.headerLength ≤ log.disk.logContent.length - offset) := by
      rintro ⟨refuses, header⟩
      have short := openable.readable (agrees.refusesReads.symm.trans refuses)
      omega
    dsimp only
    rw [entry, content, scanned, if_neg readable]
  · rw [bytes, kept, List.length_append, front]
    exact Nat.le_add_right _ _
  · rw [unread, bytes, kept]
    exact List.drop_left' front

/-- A closed log can be opened exactly where nothing in the directory is in the way. -/
theorem exists_open_iff {log : Log} (closed : log.isOpen = false) (sound : log.disk.Sound) :
    (∃ opened, log.open = .ok opened) ↔ log.disk.Openable := by
  constructor
  · rintro ⟨opened, succeeded⟩
    rw [Log.open, if_neg (by rw [closed]; exact Bool.false_ne_true)] at succeeded
    have nameable : log.disk.log ≠ .barred := by
      intro barred
      rw [Disk.openLog?_eq_none.mpr barred] at succeeded
      cases succeeded
    refine ⟨nameable, fun refuses => ?_⟩
    obtain ⟨identity, disk, found, _, _, content, agrees⟩ := Disk.openLog?_spec sound nameable
    rw [found] at succeeded
    dsimp only at succeeded
    rw [content, agrees.storedOffset_eq, ← Disk.entryOffset] at succeeded
    split at succeeded
    · cases succeeded
    · next readable =>
        rw [Disk.unread, List.length_drop]
        exact Nat.lt_of_not_le fun header =>
          readable ⟨agrees.refusesReads.trans refuses, header⟩
  · intro openable
    obtain ⟨opened, succeeded, _⟩ := open_cuts closed sound openable
    exact ⟨opened, succeeded⟩

/-- Opening a log whose unread bytes are whole frames keeps them all. -/
theorem open_spec {log : Log} (closed : log.isOpen = false) (sound : log.disk.Sound)
    (openable : log.disk.Openable) {records : List α}
    (held : Frame.Holds log.disk.unread records) :
    ∃ opened, log.open = .ok opened ∧ opened.Ready ∧ opened.unread = log.disk.unread ∧
      opened.offset = log.disk.entryOffset ∧ opened.threshold = log.threshold ∧
      Disk.AgreesBeside log.disk opened.disk := by
  obtain ⟨opened, succeeded, ready, _, unread, rest⟩ := open_cuts closed sound openable
  exact ⟨opened, succeeded, ready, unread.trans held.wholePart_eq, rest⟩

/-- Bytes go to the end of the file, and nothing else changes. -/
theorem append_spec {log : Log} (ready : log.Ready) (bytes : Bytes) :
    (log.append bytes).Ready ∧ (log.append bytes).content = log.content ++ bytes ∧
      (log.append bytes).offset = log.offset ∧ (log.append bytes).threshold = log.threshold ∧
      Disk.AgreesBeside log.disk (log.append bytes).disk := by
  obtain ⟨identity, handle, named, inside⟩ := ready.named
  have grown : log.append bytes = { log with disk := log.disk.append identity bytes } := by
    rw [append, handle]
  have content : (log.append bytes).content = log.content ++ bytes := by
    rw [content_of_handle handle, ← Disk.content_append inside, grown]
    exact content_of_handle handle
  have bounded : log.offset ≤ (log.append bytes).content.length := by
    have within := ready.within
    rw [content, List.length_append]
    omega
  rw [grown] at content bounded ⊢
  refine ⟨⟨⟨identity, handle, named, ?_⟩, bounded⟩, content, rfl, rfl, ⟨rfl, rfl, rfl, rfl⟩⟩
  show identity < (log.disk.files.set identity _).length
  rw [List.length_set]
  exact inside

/-- Storing appends the frames of those records that fit. -/
theorem store_spec {log : Log} (ready : log.Ready) (takes : log.disk.refusesAppends = false)
    (records : List α) :
    ∃ grown, log.store records = .ok grown ∧ grown.Ready ∧
      grown.content = log.content ++ Frame.ofRecords records ∧ grown.offset = log.offset ∧
      grown.threshold = log.threshold ∧ Disk.AgreesBeside log.disk grown.disk := by
  cases records with
  | nil =>
      refine ⟨log, rfl, ready, ?_, rfl, rfl, .refl _⟩
      rw [Frame.ofRecords_nil, List.append_nil]
  | cons record others =>
      have stored : log.store (record :: others) =
          .ok (log.append (Frame.ofRecords (record :: others))) := by
        simp [store, ready.isOpen, takes]
      exact ⟨_, stored, append_spec ready _⟩

theorem unread_of_content_append {log grown : Log} {bytes : Bytes} (ready : log.Ready)
    (content : grown.content = log.content ++ bytes) (offset : grown.offset = log.offset) :
    grown.unread = log.unread ++ bytes := by
  rw [unread, content, offset, List.drop_append_of_le_length ready.within, unread]

/-! Rewriting -/

/-- Nothing is in the way of a log that is to be written anew. -/
structure Rewritable (log : Log) : Prop where
  isOpen : log.isOpen = true
  givesReads : log.disk.refusesReads = false
  takesTemporary : log.disk.temporary ≠ .directory
  nameable : log.disk.log ≠ .barred

/-- An open log can be written anew if its bytes can be read and the temporary file can be written.
-/
theorem Ready.rewritable {log : Log} (ready : log.Ready) (gives : log.disk.refusesReads = false)
    (free : log.disk.temporary ≠ .directory) : log.Rewritable :=
  ⟨ready.isOpen, gives, free, ready.nameable⟩

/-- The log with its bytes in a new file, none of them read. -/
def rewritten (log : Log) (bytes : Bytes) : Log :=
  { log with
    disk := { log.disk.newLog bytes with
      temporary := .absent
      offset := (log.disk.writeOffset 0).offset }
    handle := some log.disk.files.length
    offset := 0 }

/-- The log with something else under the name of the temporary file. -/
def leaving (log : Log) (temporary : Disk.Sidecar) : Log :=
  { log with disk := { log.disk with temporary } }

/-- A compaction that nothing is in the way of writes the three parts one after another. -/
theorem rewrite_eq {log : Log} (rewritable : log.Rewritable) (before after : List α) :
    log.rewrite before after =
      (.ok (), log.rewritten
        (Frame.ofRecords before ++ log.unread ++ Frame.ofRecords after)) := by
  simp only [rewrite, rewritable.isOpen, rewritable.givesReads, compaction,
    Disk.applyAll_compaction rewritable.takesTemporary rewritable.nameable, Bool.not_true,
    Bool.false_eq_true, if_false]
  rfl

/-- A rewrite that something is in the way of fails, and at most leaves a temporary file behind. -/
theorem rewrite_of_not_rewritable {log : Log} (hindered : ¬ log.Rewritable)
    (before after : List α) :
    ∃ error temporary, log.rewrite before after = (.error error, log.leaving temporary) := by
  by_cases isOpen : log.isOpen = true
  · cases gives : log.disk.refusesReads with
    | true => exact ⟨_, log.disk.temporary, by simp only [rewrite, isOpen, gives]; rfl⟩
    | false =>
        by_cases free : log.disk.temporary = .directory
        · refine ⟨.io "the temporary file cannot be written", log.disk.temporary, ?_⟩
          simp only [rewrite, isOpen, gives, compaction, Disk.applyAll_of_directory free]
          rfl
        · have barred : log.disk.log = .barred :=
            Decidable.byContradiction fun nameable => hindered ⟨isOpen, gives, free, nameable⟩
          let written := Frame.ofRecords before ++ log.unread ++ Frame.ofRecords after
          refine ⟨.io "the log cannot be replaced", .file written, ?_⟩
          rw [rewrite, if_neg (by simp [isOpen]), if_neg (by simp [gives]), compaction,
            Disk.applyAll_of_barred free barred]
          rfl
  · exact ⟨.notOpen, log.disk.temporary, by rw [rewrite, eq_false_of_ne_true isOpen]; rfl⟩

/-- A rewrite succeeds exactly if nothing is in its way. -/
theorem rewrite_ok_iff {log : Log} (before after : List α) :
    (log.rewrite before after).1 = .ok () ↔ log.Rewritable := by
  constructor
  · intro succeeded
    apply Classical.byContradiction
    intro hindered
    obtain ⟨error, temporary, failed⟩ := rewrite_of_not_rewritable hindered before after
    rw [failed] at succeeded
    cases succeeded
  · intro rewritable
    rw [rewrite_eq rewritable]

/-- A rewrite writes a new file and reads it from its beginning. -/
theorem rewrite_spec {log : Log} (ready : log.Ready) (gives : log.disk.refusesReads = false)
    (free : log.disk.temporary ≠ .directory) (before after : List α) :
    ∃ written, log.rewrite before after = (.ok (), written) ∧ written.Ready ∧
      written.content = Frame.ofRecords before ++ log.unread ++ Frame.ofRecords after ∧
      written.offset = 0 ∧ written.threshold = log.threshold ∧
      (log.disk.Obliging → written.disk.Obliging ∧ written.disk.storedOffset = 0) := by
  generalize spliced : Frame.ofRecords before ++ log.unread ++ Frame.ofRecords after = bytes
  have content : (log.rewritten bytes).content = bytes :=
    (content_of_handle rfl).trans (Disk.content_newLog log.disk bytes)
  refine ⟨log.rewritten bytes, ?_, ⟨⟨log.disk.files.length, rfl, rfl, ?_⟩, Nat.zero_le _⟩, content,
    rfl, rfl, ?_⟩
  · rw [rewrite_eq (ready.rewritable gives free), spliced]
  · show log.disk.files.length < (log.disk.newLog bytes).files.length
    rw [Disk.length_files_newLog]
    exact Nat.lt_succ_self _
  · intro obliging
    have offset : (log.rewritten bytes).disk.offset = .file (Bytes.littleEndian 8 0) := by
      show (log.disk.writeOffset 0).offset = _
      rw [obliging.writeOffset_eq]
    refine ⟨⟨obliging.takesAppends, obliging.givesReads, ?_, ?_⟩,
      Disk.storedOffset_of_file (by decide) offset⟩
    · intro taken
      cases taken
    · intro taken
      cases offset.symm.trans taken

/-- What lies under the name of the temporary file is of no account to an open log. -/
theorem Ready.leaving {log : Log} (ready : log.Ready) (temporary : Disk.Sidecar) :
    (log.leaving temporary).Ready :=
  ⟨ready.named, ready.within⟩

/-- Moving the offset inside the file changes the bytes read, and nothing else of the log. -/
theorem moveTo_spec {log : Log} (ready : log.Ready) {offset : Nat}
    (inside : offset ≤ log.content.length) :
    (log.moveTo offset).Ready ∧ (log.moveTo offset).content = log.content ∧
      (log.disk.Obliging → (log.moveTo offset).disk.Obliging ∧
        (offset < Bytes.bound 8 → (log.moveTo offset).disk.storedOffset = offset)) := by
  obtain ⟨identity, handle, named, exists_⟩ := ready.named
  obtain ⟨sameLog, sameFiles⟩ := Disk.writeOffset_log log.disk offset
  have content : (log.moveTo offset).content = log.content := by
    rw [content_of_handle handle, Disk.content, Disk.file, ← sameFiles]
    exact content_of_handle handle
  refine ⟨⟨⟨identity, handle, sameLog.trans named, ?_⟩, ?_⟩, content, ?_⟩
  · show identity < (log.disk.writeOffset offset).files.length
    rw [sameFiles]
    exact exists_
  · rw [content]
    exact inside
  · intro obliging
    rw [moveTo, obliging.writeOffset_eq]
    refine ⟨⟨obliging.takesAppends, obliging.givesReads, obliging.takesTemporary, ?_⟩,
      fun small => Disk.storedOffset_of_file small rfl⟩
    intro taken
    cases taken

/-- Dropping what was read, now or later, keeps what was not. -/
theorem compactIfGrown_spec {log : Log} (ready : log.Ready) :
    (compactIfGrown α log).Ready ∧ (compactIfGrown α log).unread = log.unread ∧
      (compactIfGrown α log).threshold = log.threshold ∧
      (log.disk.Obliging → (compactIfGrown α log).disk.Obliging ∧
        (log.disk.storedOffset = log.offset →
          (compactIfGrown α log).disk.storedOffset = (compactIfGrown α log).offset)) := by
  rw [compactIfGrown]
  split
  · by_cases rewritable : log.Rewritable
    · obtain ⟨written, succeeded, standing, content, offset, threshold, persisted⟩ :=
        rewrite_spec ready rewritable.givesReads rewritable.takesTemporary ([] : List α) []
      rw [succeeded]
      refine ⟨standing, ?_, threshold, fun obliging => ⟨(persisted obliging).1, fun _ => ?_⟩⟩
      · show written.unread = log.unread
        rw [unread, content, offset]
        simp
      · exact (persisted obliging).2.trans offset.symm
    · obtain ⟨error, temporary, failed⟩ := rewrite_of_not_rewritable rewritable ([] : List α) []
      rw [failed]
      exact ⟨ready.leaving temporary, rfl, rfl, fun obliging =>
        absurd (ready.rewritable obliging.givesReads obliging.takesTemporary) rewritable⟩
  · exact ⟨ready, rfl, rfl, fun obliging => ⟨obliging, id⟩⟩

theorem unread_of_moved {log moved : Log} {consumed : Nat} (content : moved.content = log.content)
    (offset : moved.offset = log.offset + consumed) : moved.unread = log.unread.drop consumed := by
  rw [unread, unread, content, offset, List.drop_drop]

/-- Moving over the next so many bytes; over none, the log stays as it is. -/
theorem moveOver_spec {log : Log} (ready : log.Ready) {consumed : Nat}
    (bounded : log.offset + consumed ≤ log.content.length) {moved : Log}
    (here : (if consumed = 0 then log else log.moveTo (log.offset + consumed)) = moved) :
    moved.Ready ∧ moved.content = log.content ∧ moved.offset = log.offset + consumed ∧
      moved.threshold = log.threshold ∧
      (log.disk.Obliging → moved.disk.Obliging ∧
        (log.content.length < Bytes.bound 8 → log.disk.storedOffset = log.offset →
          moved.disk.storedOffset = moved.offset)) := by
  by_cases nothing : consumed = 0
  · rw [if_pos nothing] at here
    subst here
    rw [nothing]
    exact ⟨ready, rfl, rfl, rfl, fun obliging => ⟨obliging, fun _ stored => stored⟩⟩
  · rw [if_neg nothing] at here
    subst here
    obtain ⟨standing, content, persisted⟩ := moveTo_spec ready bounded
    refine ⟨standing, content, rfl, rfl, fun obliging => ⟨(persisted obliging).1, fun small _ => ?_⟩⟩
    exact (persisted obliging).2 (Nat.lt_of_le_of_lt bounded small)

/-- Loading reads the unread bytes.  It moves over what was read, or empties the log where a frame
holds no record. -/
theorem load_eq {log : Log} (ready : log.Ready) (gives : log.disk.refusesReads = false)
    {limit : Nat} (positive : limit ≠ 0) :
    log.load limit =
      let reading : Reading α := .ofBytes limit log.unread
      let moved := if reading.consumed = 0 then log else log.moveTo (log.offset + reading.consumed)
      .ok (reading.records,
        if reading.corrupted then (log.setContent []).moveTo 0 else compactIfGrown α moved) := by
  have packed : (Reading.ofPacked log.file limit log.offset : Reading α) =
      .ofBytes limit log.unread := Reading.ofPacked_eq _ _ _
  simp only [load, positive, ready.isOpen, gives, packed, if_false, Bool.not_true,
    Bool.false_eq_true]
  split <;> rfl

/-- Loading gives what reading the unread bytes gives, and takes as many bytes as that took. -/
theorem load_spec {log : Log} (ready : log.Ready) (gives : log.disk.refusesReads = false)
    {limit : Nat} (positive : limit ≠ 0) {records : List α} {consumed : Nat}
    (read : Reading.ofBytes limit log.unread = ⟨records, consumed, false⟩) :
    ∃ moved, log.load limit = .ok (records, moved) ∧ moved.Ready ∧
      moved.unread = log.unread.drop consumed ∧ moved.threshold = log.threshold ∧
      (log.disk.Obliging → moved.disk.Obliging ∧
        (log.content.length < Bytes.bound 8 → log.disk.storedOffset = log.offset →
          moved.disk.storedOffset = moved.offset)) := by
  have bounded : log.offset + consumed ≤ log.content.length := by
    have taken := Reading.consumed_le (α := α) limit log.unread
    have within := ready.within
    rw [read, unread, List.length_drop] at taken
    dsimp only at taken
    omega
  let moved := if consumed = 0 then log else log.moveTo (log.offset + consumed)
  have loaded : log.load limit = .ok (records, compactIfGrown α moved) := by
    rw [load_eq ready gives positive, read]
    rfl
  obtain ⟨standing, content, offset, threshold, persisted⟩ :=
    moveOver_spec ready bounded (rfl : moved = moved)
  obtain ⟨ready', unread', threshold', persisted'⟩ := compactIfGrown_spec (α := α) standing
  have rest := unread'.trans (unread_of_moved content offset)
  refine ⟨_, loaded, ready', rest, threshold'.trans threshold, fun obliging => ?_⟩
  have earlier := persisted obliging
  exact ⟨(persisted' earlier.1).1, fun small stored =>
    (persisted' earlier.1).2 (earlier.2 small stored)⟩

/-- A log that holds records gives the first of them and keeps holding the others. -/
theorem load_held {log : Log} (ready : log.Ready) (gives : log.disk.refusesReads = false)
    {limit : Nat} (positive : limit ≠ 0) {records : List α}
    (held : Frame.Holds log.unread records) :
    ∃ moved, log.load limit = .ok (records.take limit, moved) ∧ moved.Ready ∧
      Frame.Holds moved.unread (records.drop limit) ∧
      (log.disk.Obliging → moved.disk.Obliging) := by
  obtain ⟨front, back, whole, read, others⟩ := held.ofBytes_eq limit
  obtain ⟨moved, succeeded, standing, unread, _, persisted⟩ := load_spec ready gives positive read
  refine ⟨moved, succeeded, standing, ?_, fun obliging => (persisted obliging).1⟩
  rw [unread, whole, List.drop_left]
  exact others

/-- A log that cannot be read gives nothing and says so. -/
theorem load_of_refusesReads {log : Log} (ready : log.Ready)
    (refuses : log.disk.refusesReads = true) {limit : Nat} (positive : limit ≠ 0) :
    ∃ error, log.load (α := α) limit = .error error := by
  refine ⟨.io "the log cannot be read", ?_⟩
  simp [load, positive, ready.isOpen, refuses]

end Log

end TrafficMeter.Spool
