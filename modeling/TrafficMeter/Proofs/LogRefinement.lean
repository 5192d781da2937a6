/-
Module: TrafficMeter.Proofs.LogRefinement
Purpose: A log is a list of records.  Whatever is asked of it, in any order and with any thresholds,
  also after another log object took over its path, it answers as a plain list does to which a store
  appends, from which a load takes away at the front, and which a compaction extends at both ends.
Main exports: Log.Call, Log.call, Shelf, Shelf.call, Represents, Represents.call, log_refines_list
-/
import Mathlib.Algebra.GroupWithZero.Nat
import Mathlib.Data.List.Infix
import TrafficMeter.Proofs.LogBytes

namespace TrafficMeter.Spool

variable {α : Type} [Record α]

/-! ### Calls -/

/-- What can be asked of a log. -/
inductive Log.Call (α : Type) where
  | open
  | close
  | store (records : List α)
  | load (limit : Nat)
  | compact (before after : List α)
  /-- a new log object takes over the path -/
  | reopen (threshold : Nat)
deriving Repr

/-- The answer to a call: the records loaded, if any, or what went wrong. -/
abbrev Log.Reply (α : Type) :=
  Except StorageError (List α)

/-- A call that failed leaves the log as it was. -/
def Log.conclude (log : Log) : Except StorageError (List α × Log) → Log.Reply α × Log
  | .ok (records, next) => (.ok records, next)
  | .error error => (.error error, log)

def Log.call (log : Log) : Log.Call α → Log.Reply α × Log
  | .open => log.conclude (log.open.map ([], ·))
  | .close => (.ok [], log.close)
  | .store records => log.conclude ((log.store records).map ([], ·))
  | .load limit => log.conclude (log.load limit)
  | .compact before after =>
      let (result, next) := log.rewrite before after
      (result.map fun _ => [], next)
  | .reopen threshold => (.ok [], .create log.disk threshold)

def Log.after (log : Log) (calls : List (Log.Call α)) : Log :=
  calls.foldl (fun log call => (log.call call).2) log

def Log.replies (log : Log) : List (Log.Call α) → List (Log.Reply α)
  | [] => []
  | call :: later => (log.call call).1 :: (log.call call).2.replies later

/-! ### The list -/

/-- A list of records that can be open or closed. -/
structure Shelf (α : Type) where
  isOpen : Bool := false
  records : List α := []
deriving Repr

def Shelf.call (shelf : Shelf α) : Log.Call α → Log.Reply α × Shelf α
  | .open => (.ok [], { shelf with isOpen := true })
  | .close => (.ok [], { shelf with isOpen := false })
  | .store records =>
      if records.isEmpty then (.ok [], shelf)
      else if !shelf.isOpen then (.error .notOpen, shelf)
      else (.ok [], { shelf with records := shelf.records ++ records.filter Record.fits })
  | .load limit =>
      if limit = 0 then (.ok [], shelf)
      else if !shelf.isOpen then (.error .notOpen, shelf)
      else (.ok (shelf.records.take limit), { shelf with records := shelf.records.drop limit })
  | .compact before after =>
      if !shelf.isOpen then (.error .notOpen, shelf)
      else
        (.ok [], { shelf with
          records := before.filter Record.fits ++ shelf.records ++ after.filter Record.fits })
  | .reopen _ => (.ok [], { shelf with isOpen := false })

def Shelf.after (shelf : Shelf α) (calls : List (Log.Call α)) : Shelf α :=
  calls.foldl (fun shelf call => (shelf.call call).2) shelf

def Shelf.replies (shelf : Shelf α) : List (Log.Call α) → List (Log.Reply α)
  | [] => []
  | call :: later => (shelf.call call).1 :: (shelf.call call).2.replies later

/-! ### Thresholds -/

/-- A call without the threshold that it names. -/
def Log.Call.plain : Log.Call α → Log.Call α
  | .reopen _ => .reopen 0
  | call => call

/-- A call means the same to the list without the threshold that it names. -/
theorem Shelf.call_plain (shelf : Shelf α) (call : Log.Call α) :
    shelf.call call.plain = shelf.call call := by
  cases call <;> rfl

/-- A list knows nothing of thresholds. -/
theorem Shelf.replies_plain (shelf : Shelf α) (calls : List (Log.Call α)) :
    shelf.replies (calls.map Log.Call.plain) = shelf.replies calls := by
  induction calls generalizing shelf with
  | nil => rfl
  | cons call later ih =>
      rw [List.map_cons, Shelf.replies, Shelf.replies, Shelf.call_plain, ih]

/-! ### The log stands for the list -/

/-- The number of bytes that a record takes in a log. -/
def Frame.lengthOf (record : α) : Nat :=
  match Record.payload record with
  | .ok payload => headerLength + payload.length
  | .error _ => 0

/-- The bytes of records in a log are those of each of them; a record that fits in no frame takes
none. -/
theorem Frame.length_ofRecords (records : List α) :
    (ofRecords records).length = (records.map lengthOf).sum := by
  induction records with
  | nil => rfl
  | cons record others ih =>
      rw [List.map_cons, List.sum_cons, ← ih, lengthOf]
      cases found : Record.payload record with
      | ok payload =>
          rw [ofRecords_cons_of_payload others found, List.length_append, length_ofPayload]
      | error error =>
          have unfit : Record.fits record = false := by
            rw [Record.fits, found]
            rfl
          rw [ofRecords_cons_of_not_fits others unfit, Nat.zero_add]

/-- A log, open or closed, whose unread bytes are the frames of the records of the list, and whose
offset file says where they begin. -/
structure Represents (log : Log) (shelf : Shelf α) : Prop where
  fitting : ∀ record ∈ shelf.records, Record.fits record = true
  obliging : log.disk.Obliging
  sound : log.disk.Sound
  nameable : log.disk.log ≠ .barred
  inside : log.disk.storedOffset ≤ log.disk.logContent.length
  bytes : log.disk.unread = Frame.ofRecords shelf.records
  standing : if shelf.isOpen then log.Ready ∧ log.disk.storedOffset = log.offset
    else log.isOpen = false

/-- An open log that keeps its offset in the offset file has the same bytes before it as another
log object that takes over its path. -/
theorem Log.Ready.disk_unread {log : Log} (ready : log.Ready)
    (stored : log.disk.storedOffset = log.offset) : log.disk.unread = log.unread := by
  have within := ready.within
  rw [ready.content_eq] at within
  rw [Disk.unread, Disk.entryOffset, stored, if_neg (Nat.not_lt_of_le within), Log.unread,
    ready.content_eq]

namespace Represents

variable {log : Log} {shelf : Shelf α}

/-- An open log that represents a list is in order, and the offset file tells its offset. -/
theorem ready (represents : Represents log shelf) (isOpen : shelf.isOpen = true) :
    log.Ready ∧ log.disk.storedOffset = log.offset := by
  have standing := represents.standing
  rwa [if_pos isOpen] at standing

theorem closed (represents : Represents log shelf) (isClosed : shelf.isOpen = false) :
    log.isOpen = false := by
  have standing := represents.standing
  rwa [if_neg (by rw [isClosed]; exact Bool.false_ne_true)] at standing

theorem isOpen_eq (represents : Represents log shelf) : log.isOpen = shelf.isOpen := by
  cases isOpen : shelf.isOpen with
  | true => exact (represents.ready isOpen).1.isOpen
  | false => exact represents.closed isOpen

/-- Its unread bytes are the frames of the list. -/
theorem unread (represents : Represents log shelf) (isOpen : shelf.isOpen = true) :
    log.unread = Frame.ofRecords shelf.records := by
  obtain ⟨ready, stored⟩ := represents.ready isOpen
  rw [← ready.disk_unread stored, represents.bytes]

/-- What is to be shown of an open log after a call; the rest follows from its being in order. -/
theorem of_ready {records : List α} (fitting : ∀ record ∈ records, Record.fits record = true)
    (obliging : log.disk.Obliging) (ready : log.Ready)
    (stored : log.disk.storedOffset = log.offset)
    (bytes : log.unread = Frame.ofRecords records) : Represents log ⟨true, records⟩ where
  fitting := fitting
  obliging := obliging
  sound := ready.sound
  nameable := ready.nameable
  inside := by
    rw [stored, ← ready.content_eq]
    exact ready.within
  bytes := (ready.disk_unread stored).trans bytes
  standing := ⟨ready, stored⟩

/-- A closed log over the directory of a represented one represents the same records. -/
theorem shut (represents : Represents log shelf) {other : Log} (disk : other.disk = log.disk)
    (closed : other.isOpen = false) : Represents other { shelf with isOpen := false } where
  fitting := represents.fitting
  obliging := disk ▸ represents.obliging
  sound := disk ▸ represents.sound
  nameable := disk ▸ represents.nameable
  inside := disk ▸ represents.inside
  bytes := disk ▸ represents.bytes
  standing := closed

end Represents

/-! ### One call -/

/-- A call is answered alike by a log and a list, and leads to a log that represents the list. -/
def Agree (log : Log) (shelf : Shelf α) (call : Log.Call α) : Prop :=
  (log.call call).1 = (shelf.call call).1 ∧ Represents (log.call call).2 (shelf.call call).2

namespace Represents

variable {log : Log} {shelf : Shelf α}

theorem agree {next : Log} {shelf' : Shelf α} (related : Represents next shelf')
    {call : Log.Call α} {reply : Log.Reply α} (one : log.call call = (reply, next))
    (two : shelf.call call = (reply, shelf')) : Agree log shelf call := by
  rw [Agree, one, two]
  exact ⟨rfl, related⟩

/-- Records are kept if they fit in a frame, so those that were kept do. -/
theorem fitting_filter (records : List α) :
    ∀ record ∈ records.filter Record.fits, Record.fits record = true :=
  fun _ member => (List.mem_filter.mp member).2

/-- Opening finds what the list holds, and cuts nothing, since there are only whole frames. -/
theorem agree_open [LawfulRecord α] (represents : Represents log shelf) :
    Agree log shelf .open := by
  cases isOpen : shelf.isOpen with
  | true =>
      have opened : log.call (.open : Log.Call α) = (.ok [], log) := by
        rw [Log.call, Log.open, if_pos (represents.ready isOpen).1.isOpen]
        rfl
      have same : ({ shelf with isOpen := true } : Shelf α) = shelf := by rw [← isOpen]
      exact represents.agree opened (by rw [Shelf.call, same])
  | false =>
      have held : Frame.Holds log.disk.unread shelf.records :=
        represents.bytes ▸ Frame.Holds.ofRecords_of_fits represents.fitting
      obtain ⟨opened, succeeded, ready, unread, offset, _, agrees⟩ :=
        Log.open_spec (represents.closed isOpen) represents.sound
          (represents.obliging.openable represents.nameable) held
      have stored : opened.disk.storedOffset = opened.offset := by
        rw [offset, agrees.storedOffset_eq, Disk.entryOffset,
          if_neg (Nat.not_lt_of_le represents.inside)]
      have related := of_ready represents.fitting (agrees.obliging represents.obliging) ready stored
        (unread.trans represents.bytes)
      exact related.agree (by rw [Log.call, succeeded]; rfl) rfl

/-- Storing appends to the list what fits in a frame. -/
theorem agree_store [LawfulRecord α] (represents : Represents log shelf) (records : List α) :
    Agree log shelf (.store records) := by
  cases records with
  | nil => exact represents.agree rfl rfl
  | cons record others =>
      cases isOpen : shelf.isOpen with
      | false =>
          have refused : log.store (record :: others) = .error .notOpen := by
            rw [Log.store, represents.closed isOpen]
            rfl
          exact represents.agree (by rw [Log.call, refused]; rfl) (by rw [Shelf.call, isOpen]; rfl)
      | true =>
          obtain ⟨ready, stored⟩ := represents.ready isOpen
          obtain ⟨grown, succeeded, standing, content, offset, _, agrees⟩ :=
            Log.store_spec ready represents.obliging.takesAppends (record :: others)
          have fitting : ∀ item ∈ shelf.records ++ (record :: others).filter Record.fits,
              Record.fits item = true := by
            intro item member
            rcases List.mem_append.mp member with old | new
            · exact represents.fitting item old
            · exact fitting_filter _ item new
          have bytes : grown.unread =
              Frame.ofRecords (shelf.records ++ (record :: others).filter Record.fits) := by
            rw [Log.unread_of_content_append ready content offset, represents.unread isOpen,
              Frame.ofRecords_append, Frame.ofRecords_filter_fits]
          have related := of_ready fitting (agrees.obliging represents.obliging) standing
            (by rw [agrees.storedOffset_eq, stored, offset]) bytes
          exact related.agree (by rw [Log.call, succeeded]; rfl)
            (by rw [Shelf.call, isOpen]; rfl)

/-- Loading takes from the front of the list, whether what was read is dropped from the file or not.
-/
theorem agree_load [LawfulRecord α] (represents : Represents log shelf)
    (small : log.content.length < Bytes.bound 8) (limit : Nat) : Agree log shelf (.load limit) := by
  by_cases none : limit = 0
  · subst none
    exact represents.agree rfl rfl
  cases isOpen : shelf.isOpen with
  | false =>
      have refused : log.load (α := α) limit = .error .notOpen := by
        rw [Log.load, if_neg none, represents.closed isOpen]
        rfl
      exact represents.agree (by rw [Log.call, refused]; rfl)
        (by rw [Shelf.call, if_neg none, isOpen]; rfl)
  | true =>
      obtain ⟨ready, stored⟩ := represents.ready isOpen
      have read := Frame.Holds.ofBytes_ofRecords represents.fitting limit
      rw [← represents.unread isOpen] at read
      obtain ⟨moved, succeeded, standing, unread, _, persisted⟩ :=
        Log.load_spec ready represents.obliging.givesReads none read
      obtain ⟨obliging, kept⟩ := persisted represents.obliging
      have bytes : moved.unread = Frame.ofRecords (shelf.records.drop limit) := by
        have whole := Frame.ofRecords_append (shelf.records.take limit) (shelf.records.drop limit)
        rw [List.take_append_drop] at whole
        rw [unread, represents.unread isOpen, whole, List.drop_left]
      -- the offset file has eight octets, so the offset is stored as it is only below their bound
      have related := of_ready
        (fun record member => represents.fitting record (List.mem_of_mem_drop member)) obliging
        standing (kept small stored) bytes
      exact related.agree (by rw [Log.call, succeeded]; rfl)
        (by rw [Shelf.call, if_neg none, isOpen]; rfl)

/-- A compaction puts records in front of the list and behind it. -/
theorem agree_compact [LawfulRecord α] (represents : Represents log shelf)
    (before after : List α) : Agree log shelf (.compact before after) := by
  cases isOpen : shelf.isOpen with
  | false =>
      have refused : log.rewrite before after = (.error .notOpen, log) := by
        rw [Log.rewrite, represents.closed isOpen]
        rfl
      exact represents.agree (by rw [Log.call, refused]) (by rw [Shelf.call, isOpen]; rfl)
  | true =>
      obtain ⟨ready, _⟩ := represents.ready isOpen
      obtain ⟨written, succeeded, standing, content, offset, _, persisted⟩ :=
        Log.rewrite_spec ready represents.obliging.givesReads represents.obliging.takesTemporary
          before after
      obtain ⟨obliging, stored⟩ := persisted represents.obliging
      have fitting : ∀ record ∈
          before.filter Record.fits ++ shelf.records ++ after.filter Record.fits,
          Record.fits record = true := by
        intro record member
        rcases List.mem_append.mp member with front | back
        · rcases List.mem_append.mp front with new | old
          · exact fitting_filter _ record new
          · exact represents.fitting record old
        · exact fitting_filter _ record back
      have bytes : written.unread = Frame.ofRecords
          (before.filter Record.fits ++ shelf.records ++ after.filter Record.fits) := by
        rw [Log.unread, content, offset, List.drop_zero, represents.unread isOpen]
        simp only [Frame.ofRecords_append, Frame.ofRecords_filter_fits]
      have related := of_ready fitting obliging standing (stored.trans offset.symm) bytes
      exact related.agree (by rw [Log.call, succeeded]) (by rw [Shelf.call, isOpen]; rfl)

/-- One call, whichever it is. -/
theorem step [LawfulRecord α] (represents : Represents log shelf)
    (small : log.content.length < Bytes.bound 8) (call : Log.Call α) : Agree log shelf call := by
  cases call with
  | «open» => exact represents.agree_open
  | close =>
      have related : Represents log.close { shelf with isOpen := false } := represents.shut rfl rfl
      exact related.agree rfl rfl
  | store records => exact represents.agree_store records
  | load limit => exact represents.agree_load small limit
  | compact before after => exact represents.agree_compact before after
  | reopen threshold =>
      have related : Represents (.create log.disk threshold) { shelf with isOpen := false } :=
        represents.shut rfl rfl
      exact related.agree rfl rfl

/-- The run: all answers agree, and so do the log and the list in the end. -/
theorem run [LawfulRecord α] (represents : Represents log shelf) {calls : List (Log.Call α)}
    (small : ∀ earlier, earlier <+: calls → (log.after earlier).content.length < Bytes.bound 8) :
    log.replies calls = shelf.replies calls ∧ Represents (log.after calls) (shelf.after calls) := by
  induction calls generalizing log shelf with
  | nil => exact ⟨rfl, represents⟩
  | cons call later ih =>
      obtain ⟨answer, related⟩ := represents.step (small [] (List.nil_prefix)) call
      have rest := ih related fun earlier front =>
        small (call :: earlier) (List.cons_prefix_cons.mpr ⟨rfl, front⟩)
      refine ⟨?_, rest.2⟩
      rw [Log.replies, Shelf.replies, answer, rest.1]

/-- A path without files stands for the empty list. -/
theorem create {disk : Disk} (absent : disk.log = .absent) (unwritten : disk.offset = .absent)
    (obliging : disk.Obliging) (threshold : Nat) :
    Represents (.create disk threshold) ({} : Shelf α) := by
  have vacant := Disk.logContent_of_absent absent
  have start := Disk.storedOffset_of_absent unwritten
  refine ⟨List.forall_mem_nil _, obliging, Disk.sound_of_absent absent, ?_, ?_, ?_, rfl⟩
  · intro barred
    cases absent.symm.trans barred
  · show disk.storedOffset ≤ _
    rw [start]
    exact Nat.zero_le _
  · show disk.unread = []
    rw [Disk.unread_of_storedOffset start, vacant]

end Represents

/-! ### The refinement -/

/-- From a directory without log and offset file, every log answers every sequence of calls as the
list does that starts empty; what an open log has not read are the frames of the records of the
list, and the thresholds make no difference to the answers.  No file reaches 2⁶⁴ bytes, as lengths
of files and offsets are kept in 64 bits. -/
theorem log_refines_list [LawfulRecord α] {disk : Disk} (absent : disk.log = .absent)
    (unwritten : disk.offset = .absent) (obliging : disk.Obliging) (threshold : Nat)
    (calls : List (Log.Call α))
    (small : ∀ earlier, earlier <+: calls →
      ((Log.create disk threshold).after earlier).content.length < Bytes.bound 8) :
    let log := (Log.create disk threshold).after calls
    let list := ({} : Shelf α).after calls
    (Log.create disk threshold).replies calls = ({} : Shelf α).replies calls ∧
      log.isOpen = list.isOpen ∧
      (log.isOpen = true →
        log.pending = .ok (list.records.map Frame.lengthOf).sum ∧
        log.content.drop log.offset = Frame.ofRecords list.records ∧
        log.offset ≤ log.content.length) ∧
      ∀ (otherThreshold : Nat) (otherCalls : List (Log.Call α)),
        otherCalls.map Log.Call.plain = calls.map Log.Call.plain →
        (∀ earlier, earlier <+: otherCalls →
          ((Log.create disk otherThreshold).after earlier).content.length < Bytes.bound 8) →
        (Log.create disk otherThreshold).replies otherCalls =
          (Log.create disk threshold).replies calls := by
  intro log list
  have start := fun threshold => Represents.create (α := α) absent unwritten obliging threshold
  obtain ⟨replies, represents⟩ := (start threshold).run small
  refine ⟨replies, represents.isOpen_eq, fun isOpen => ?_, ?_⟩
  · have listOpen : list.isOpen = true := represents.isOpen_eq.symm.trans isOpen
    have ready := (represents.ready listOpen).1
    have unread := represents.unread listOpen
    refine ⟨?_, unread, ready.within⟩
    rw [ready.pending_eq, unread, Frame.length_ofRecords]
  · intro otherThreshold otherCalls alike otherSmall
    rw [((start otherThreshold).run otherSmall).1, replies, ← Shelf.replies_plain, alike,
      Shelf.replies_plain]

/-- Calls of every kind, over records of several lengths. -/
def sampleCalls (threshold : Nat) : List (Log.Call Octets) :=
  [.open, .store [⟨[1, 2]⟩, ⟨[]⟩, ⟨[3]⟩], .load 1, .reopen threshold, .load 2, .open, .load 1,
    .compact [⟨[4]⟩] [⟨[5]⟩], .load 9, .close]

/-- The sample writes but a few bytes at either threshold. -/
theorem sampleCalls_small {threshold other : Nat}
    (one : threshold = 5 ∧ other = 3 ∨ threshold = 100 ∧ other = 0) :
    ∀ earlier, earlier <+: sampleCalls other →
      ((Log.create {} threshold).after earlier).content.length < Bytes.bound 8 := by
  have all : ∀ earlier ∈ (sampleCalls other).inits,
      ((Log.create {} threshold).after earlier).content.length < Bytes.bound 8 := by
    rcases one with ⟨rfl, rfl⟩ | ⟨rfl, rfl⟩ <;> decide +kernel
  intro earlier front
  exact all earlier ((List.mem_inits _ _).mpr front)

/-- The same answers at two thresholds, one of which is passed on the way. -/
theorem log_refines_list_of_sampleCalls :
    (Log.create {} 5).replies (sampleCalls 3) =
        [.ok [], .ok [], .ok [⟨[1, 2]⟩], .ok [], .error .notOpen, .ok [], .ok [⟨[]⟩], .ok [],
          .ok [⟨[4]⟩, ⟨[3]⟩, ⟨[5]⟩], .ok []] ∧
      (Log.create {} 100).replies (sampleCalls 0) = (Log.create {} 5).replies (sampleCalls 3) := by
  have absent : ({} : Disk).log = .absent := rfl
  obtain ⟨replies, _, _, independent⟩ := log_refines_list absent rfl
    Disk.obliging_empty 5 (sampleCalls 3) (sampleCalls_small (.inl ⟨rfl, rfl⟩))
  refine ⟨?_, independent 100 (sampleCalls 0) rfl (sampleCalls_small (.inr ⟨rfl, rfl⟩))⟩
  rw [replies]
  rfl

end TrafficMeter.Spool
