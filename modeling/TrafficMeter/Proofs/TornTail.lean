/-
Module: TrafficMeter.Proofs.TornTail
Purpose: What opening a log cuts off, whatever bytes lie there and whatever offset was kept: the
  beginning of a frame that was not completed, and so nothing that could be loaded.  From then on
  whole frames stand between the offset and the end, and every store writes behind them.
Main exports: Frame.Whole, Frame.Torn, Frame.torn_iff, Log.load_fst, Log.open_again, Log.Aligned,
  Log.Aligned.after, opening_cuts_torn_tail
-/
import TrafficMeter.Proofs.LoadedFrames
import TrafficMeter.Proofs.Reopening

namespace TrafficMeter.Spool

variable {α : Type} [Record α]

/-! ### Whole frames and torn ones -/

namespace Frame

/-- Frames, one after another, and nothing else. -/
def Whole (bytes : Bytes) : Prop :=
  ∃ frames : List Bytes, (∀ payload ∈ frames, payload.length ≤ largestPayload) ∧
    bytes = frames.flatMap ofPayload

/-- The beginning of a frame, without its last octet at least. -/
def Torn (bytes : Bytes) : Prop :=
  ∃ payload : Bytes, payload.length ≤ largestPayload ∧
    bytes <+: ofPayload payload ∧ bytes ≠ ofPayload payload

theorem short_of_mem_payloads {bytes payload : Bytes} (member : payload ∈ payloads bytes) :
    payload.length ≤ largestPayload := by
  induction bytes using frameInduction with
  | torn bytes none =>
      rw [payloads_of_next?_none none] at member
      cases member
  | frame first rest short ih =>
      rw [payloads_ofPayload_append short] at member
      rcases List.mem_cons.mp member with rfl | later
      · exact short
      · exact ih later

/-- Frames laid end to end are read back as they were. -/
theorem payloads_flatMap {frames : List Bytes}
    (short : ∀ payload ∈ frames, payload.length ≤ largestPayload) :
    payloads (frames.flatMap ofPayload) = frames := by
  induction frames with
  | nil => exact payloads_of_next?_none rfl
  | cons payload others ih =>
      obtain ⟨first, later⟩ := List.forall_mem_cons.mp short
      rw [List.flatMap_cons, payloads_ofPayload_append first, ih later]

theorem payloads_wholePart (bytes : Bytes) : payloads (wholePart bytes) = payloads bytes :=
  payloads_flatMap fun _ => short_of_mem_payloads

theorem whole_wholePart (bytes : Bytes) : Whole (wholePart bytes) :=
  ⟨payloads bytes, fun _ => short_of_mem_payloads, rfl⟩

/-- Nothing is torn off whole frames. -/
theorem Whole.wholePart_eq {bytes : Bytes} (whole : Whole bytes) : wholePart bytes = bytes := by
  obtain ⟨frames, short, rfl⟩ := whole
  rw [wholePart, payloads_flatMap short]

theorem Whole.append {front back : Bytes} (one : Whole front) (two : Whole back) :
    Whole (front ++ back) := by
  rw [← one.wholePart_eq, ← two.wholePart_eq, ← wholePart_wholePart_append]
  exact whole_wholePart _

theorem whole_nil : Whole [] :=
  ⟨[], List.forall_mem_nil _, rfl⟩

theorem whole_ofRecords (records : List α) : Whole (ofRecords records) := by
  rw [← wholePart_ofRecords]
  exact whole_wholePart _

/-- Whole frames stay whole when the first of them are taken away. -/
theorem Whole.drop {bytes : Bytes} (whole : Whole bytes) (count : Nat) :
    Whole (bytes.drop (((payloads bytes).take count).flatMap ofPayload).length) := by
  refine ⟨(payloads bytes).drop count,
    fun _ member => short_of_mem_payloads (List.mem_of_mem_drop member), ?_⟩
  have split : ((payloads bytes).take count).flatMap ofPayload ++
      ((payloads bytes).drop count).flatMap ofPayload = bytes := by
    rw [← List.flatMap_append, List.take_append_drop]
    exact whole.wholePart_eq
  calc bytes.drop (((payloads bytes).take count).flatMap ofPayload).length
      = (((payloads bytes).take count).flatMap ofPayload ++
          ((payloads bytes).drop count).flatMap ofPayload).drop
            (((payloads bytes).take count).flatMap ofPayload).length := by rw [split]
    _ = ((payloads bytes).drop count).flatMap ofPayload := List.drop_left

/-- A header with fewer octets behind it than it announces. -/
theorem torn_of_short {low high : UInt8} {rest : Bytes}
    (short : rest.length < Bytes.ofLittleEndian [low, high]) : Torn (low :: high :: rest) := by
  have header := Bytes.littleEndian_ofLittleEndian [low, high]
  have bounded := Bytes.ofLittleEndian_lt [low, high]
  generalize Bytes.ofLittleEndian [low, high] = announced at short header bounded
  let payload := rest ++ List.replicate (announced - rest.length) 0
  have complete : payload.length = announced := by
    rw [List.length_append, List.length_replicate, Nat.add_sub_cancel' (Nat.le_of_lt short)]
  have written : ofPayload payload = low :: high :: payload := by
    rw [ofPayload, complete, headerLength]
    exact congrArg (· ++ payload) header
  refine ⟨payload, ?_, ?_, fun same => ?_⟩
  · rw [complete]
    exact Nat.le_of_lt_succ bounded
  · rw [written]
    exact ⟨List.replicate (announced - rest.length) 0, rfl⟩
  · rw [written] at same
    have lengths := congrArg List.length (List.cons.inj (List.cons.inj same).2).2
    omega

/-- The front of a torn end is torn as well. -/
theorem Torn.of_prefix {front bytes : Bytes} (torn : Torn bytes) (first : front <+: bytes) :
    Torn front := by
  obtain ⟨payload, short, begins, lacking⟩ := torn
  refine ⟨payload, short, first.trans begins, fun complete => lacking ?_⟩
  rw [complete] at first
  exact begins.eq_of_length_le first.length_le

/-- There is no complete frame at the front exactly if there is the beginning of one. -/
theorem torn_iff {bytes : Bytes} : Torn bytes ↔ next? bytes = none := by
  constructor
  · rintro ⟨payload, short, ⟨missing, whole⟩, torn⟩
    cases found : next? bytes with
    | none => rfl
    | some read =>
        obtain ⟨first, rest⟩ := read
        obtain ⟨fits, rfl⟩ := next?_eq_some_iff.mp found
        have once := next?_ofPayload_append fits (rest ++ missing)
        have again := next?_ofPayload_append short []
        rw [← List.append_assoc, whole, ← List.append_nil (ofPayload payload), again] at once
        obtain ⟨same, nothing⟩ := Prod.mk.inj (Option.some.inj once)
        rw [(List.append_eq_nil_iff.mp nothing.symm).1, List.append_nil, same] at torn
        exact absurd rfl torn
  · intro none
    match bytes, none with
    | [], _ => exact ⟨[], Nat.zero_le _, List.nil_prefix, by decide⟩
    | [low], _ =>
        have header : Torn [low, 1] := torn_of_short (Nat.lt_add_left low.toNat (by decide))
        exact header.of_prefix ⟨[1], rfl⟩
    | low :: high :: rest, none =>
        simp only [next?, ite_eq_right_iff, reduceCtorEq, imp_false, List.length_take] at none
        exact torn_of_short (by omega)

end Frame

namespace Log

open TrafficMeter.Spool.Frame

/-! ### What a load gives -/

/-- The records that are read are those of the complete frames. -/
theorem Reading.records_ofBytes_congr {bytes other : Bytes}
    (same : payloads bytes = payloads other) (limit : Nat) :
    (Reading.ofBytes limit bytes : Reading α).records = (Reading.ofBytes limit other).records := by
  obtain ⟨first, held, one⟩ := Reading.ofBytes_eq_of_payloads (α := α) limit bytes
  obtain ⟨second, held', two⟩ := Reading.ofBytes_eq_of_payloads (α := α) limit other
  rw [← same] at held'
  rw [one, two]
  exact held.unique held'

/-- The answer to a load depends on the bytes not read yet, and on nothing else in the log. -/
theorem load_fst {log : Log} (ready : log.Ready) (limit : Nat) :
    (log.load (α := α) limit).map Prod.fst =
      if log.disk.refusesReads ∧ limit ≠ 0 then .error (.io "the log cannot be read")
      else .ok (Reading.ofBytes limit log.unread).records := by
  by_cases nothing : limit = 0
  · subst nothing
    rw [if_neg fun both => both.2 rfl]
    rfl
  · cases gives : log.disk.refusesReads with
    | true => simp [load, nothing, ready.isOpen, gives, Except.map]
    | false =>
        rw [load_eq ready gives nothing, if_neg fun both => Bool.false_ne_true both.1]
        rfl

/-- Other bytes in the file of an open log change neither its offset nor anything beside it. -/
theorem setContent_spec {log : Log} (ready : log.Ready) {bytes : Bytes}
    (inside : log.offset ≤ bytes.length) :
    (log.setContent bytes).Ready ∧ (log.setContent bytes).content = bytes ∧
      (log.setContent bytes).offset = log.offset ∧
      Disk.AgreesBeside log.disk (log.setContent bytes).disk := by
  obtain ⟨identity, handle, named, exists_⟩ := ready.named
  let written : Log :=
    { log with disk := log.disk.setContent identity bytes, handle := some identity }
  have shape : log.setContent bytes = written := by rw [setContent, handle]
  have content : written.content = bytes :=
    (content_of_handle rfl).trans (Disk.content_setContent exists_ bytes)
  rw [shape]
  refine ⟨⟨⟨identity, rfl, named, ?_⟩, ?_⟩, content, rfl, ⟨rfl, rfl, rfl, rfl⟩⟩
  · simpa only [written, Disk.setContent, List.length_set] using exists_
  · rw [content]
    exact inside

/-- A load without a limit leaves nothing of whole frames that all hold records. -/
theorem load_all {log : Log} (ready : log.Ready) (gives : log.disk.refusesReads = false)
    (whole : Whole log.unread)
    (sound : ∀ payload ∈ payloads log.unread, ∃ record : α, Record.decode payload = .ok record)
    {limit : Nat} (enough : (payloads log.unread).length ≤ limit) :
    ∃ (records : List α) (moved : Log), log.load limit = .ok (records, moved) ∧
      HeldBy (payloads log.unread) records ∧ moved.pending = .ok 0 := by
  have asked : (payloads log.unread).take limit = payloads log.unread :=
    List.take_of_length_le enough
  have everything : log.front limit = log.unread := by
    rw [front, asked]
    exact whole.wholePart_eq
  have empties : ∀ {records : List α} {moved : Log}, log.load limit = .ok (records, moved) →
      moved.pending = .ok 0 := by
    intro records moved loaded
    obtain ⟨standing, _, nothing⟩ := load_leaves ready loaded
    rw [everything, List.drop_length, or_self] at nothing
    rw [standing.pending_eq, nothing, List.length_nil]
  by_cases nothing : limit = 0
  · subst nothing
    have none : payloads log.unread = [] := List.length_eq_zero_iff.mp (Nat.le_zero.mp enough)
    have loaded : log.load (α := α) 0 = .ok ([], log) := rfl
    exact ⟨[], log, loaded, none ▸ heldBy_nil, empties loaded⟩
  · have all : ((payloads log.unread).take limit).all (holdsRecord α) = true := by
      rw [asked]
      exact List.all_eq_true.mpr fun payload member => holdsRecord_iff.mpr (sound payload member)
    obtain ⟨_, records, held, loaded⟩ := load_moves ready gives nothing all
    exact ⟨records, _, loaded, asked ▸ held, empties loaded⟩

/-! ### Opening again -/

/-- The offset that was found is found again, in a file that is no longer. -/
theorem entryOffset_opened {disk : Disk} {opened : Log} (ready : opened.Ready)
    (shorter : opened.content.length ≤ disk.logContent.length)
    (offset : opened.offset = disk.entryOffset) (agrees : Disk.AgreesBeside disk opened.disk) :
    opened.disk.entryOffset = opened.offset := by
  have within := ready.within
  rw [offset, Disk.entryOffset] at within
  rw [offset, Disk.entryOffset, Disk.entryOffset, agrees.storedOffset_eq, ← ready.content_eq]
  split at within <;> split <;> omega

/-- A log that could be opened can be opened again. -/
theorem openable_opened {disk : Disk} {opened : Log} (openable : disk.Openable)
    (ready : opened.Ready) (unread : opened.unread = wholePart disk.unread)
    (entered : opened.disk.entryOffset = opened.offset) (agrees : Disk.AgreesBeside disk opened.disk) :
    opened.disk.Openable := by
  refine ⟨ready.nameable, fun refuses => ?_⟩
  have short := openable.readable (agrees.refusesReads.symm.trans refuses)
  have fewer := (wholePart_isPrefix disk.unread).length_le
  have same : opened.disk.unread = opened.unread := by
    rw [Disk.unread, entered, ← ready.content_eq, Log.unread]
  rw [same, unread]
  omega

/-- A log object that finds whole frames behind the offset of an open one becomes the same. -/
theorem open_again {opened : Log} (ready : opened.Ready) (whole : Whole opened.unread)
    (entered : opened.disk.entryOffset = opened.offset) (openable : opened.disk.Openable)
    {log : Log} (closed : log.isOpen = false) (same : log.disk = opened.disk) :
    log.open = .ok { opened with threshold := log.threshold } := by
  obtain ⟨identity, handle, named, _⟩ := ready.named
  have content : opened.disk.logContent = opened.disk.content identity :=
    Disk.logContent_of_file named
  have entry : (if (opened.disk.content identity).length < opened.disk.storedOffset then 0
      else opened.disk.storedOffset) = opened.offset := by
    rw [← entered, Disk.entryOffset, content]
  have rest : (opened.disk.content identity).drop opened.offset = opened.unread := by
    rw [unread, ready.content_eq, content]
  have reach : opened.offset + opened.unread.length = (opened.disk.content identity).length := by
    have within := ready.within
    rw [ready.content_eq, content] at within
    rw [← rest, List.length_drop, Nat.add_sub_cancel' within]
  have scanned : completeEnd (opened.disk.content identity).length opened.offset opened.unread =
      (opened.disk.content identity).length := by
    rw [← reach, completeEnd_eq_wholePart, whole.wholePart_eq]
  have found : log.disk.openLog? = some (identity, opened.disk) := by
    rw [same, Disk.openLog?, named]
  have readable : ¬ (opened.disk.refusesReads = true ∧
      headerLength ≤ (opened.disk.content identity).length - opened.offset) := by
    rintro ⟨refuses, header⟩
    have short := openable.readable refuses
    rw [Disk.unread, entered, content, List.length_drop] at short
    omega
  rw [Log.open, if_neg (by rw [closed]; exact Bool.false_ne_true), found]
  dsimp only
  rw [entry, if_neg readable, rest, scanned, if_neg (Nat.lt_irrefl _), ← handle]

/-! ### Calls -/

/-- A store that succeeds appends to an open log, if it changes anything. -/
theorem store_eq_ok {log grown : Log} {records : List α}
    (succeeded : log.store records = .ok grown) :
    records = [] ∧ grown = log ∨
      log.isOpen = true ∧ grown = log.append (ofRecords records) := by
  rw [store] at succeeded
  split at succeeded
  · next nothing =>
      cases succeeded
      exact .inl ⟨List.isEmpty_iff.mp nothing, rfl⟩
  · split at succeeded
    · cases succeeded
    · next notClosed =>
        split at succeeded
        · cases succeeded
        · cases succeeded
          exact .inr ⟨by simpa using notClosed, rfl⟩

/-- A log of which the file, if it is open, holds whole frames from the offset to the end. -/
structure Aligned (log : Log) : Prop where
  sound : log.disk.Sound
  nameable : log.disk.log ≠ .barred
  standing : log.isOpen = true → log.Ready ∧ Whole log.unread

namespace Aligned

variable {log next : Log}

theorem of_ready (ready : log.Ready) (whole : Whole log.unread) : log.Aligned :=
  ⟨ready.sound, ready.nameable, fun _ => ⟨ready, whole⟩⟩

/-- A log that is not open is as its directory. -/
theorem of_closed (sound : log.disk.Sound) (nameable : log.disk.log ≠ .barred)
    (closed : log.isOpen = false) : log.Aligned :=
  ⟨sound, nameable, fun isOpen => nomatch closed.symm.trans isOpen⟩

theorem «open» (aligned : log.Aligned) (succeeded : log.open = .ok next) : next.Aligned := by
  cases isOpen : log.isOpen with
  | true =>
      rw [Log.open, if_pos isOpen] at succeeded
      cases succeeded
      exact aligned
  | false =>
      have openable := (exists_open_iff isOpen aligned.sound).mp ⟨next, succeeded⟩
      obtain ⟨opened, opens, ready, _, unread, _⟩ := open_cuts isOpen aligned.sound openable
      cases opens.symm.trans succeeded
      exact of_ready ready (unread ▸ whole_wholePart _)

/-- A store appends whole frames. -/
theorem store (aligned : log.Aligned) {records : List α}
    (succeeded : log.store records = .ok next) : next.Aligned := by
  rcases store_eq_ok succeeded with ⟨_, rfl⟩ | ⟨isOpen, rfl⟩
  · exact aligned
  · obtain ⟨ready, whole⟩ := aligned.standing isOpen
    obtain ⟨standing, content, offset, _⟩ := append_spec ready (ofRecords records)
    refine of_ready standing ?_
    rw [unread_of_content_append ready content offset]
    exact whole.append (whole_ofRecords records)

/-- A load moves the offset over whole frames, or empties the file. -/
theorem load (aligned : log.Aligned) {limit : Nat} {records : List α}
    (succeeded : log.load limit = .ok (records, next)) : next.Aligned := by
  cases isOpen : log.isOpen with
  | false =>
      by_cases nothing : limit = 0
      · subst nothing
        cases succeeded
        exact aligned
      · rw [Log.load, if_neg nothing, isOpen] at succeeded
        cases succeeded
  | true =>
      obtain ⟨ready, whole⟩ := aligned.standing isOpen
      obtain ⟨standing, _, emptied | moved⟩ := load_leaves ready succeeded
      · exact of_ready standing (emptied ▸ whole_nil)
      · exact of_ready standing (moved ▸ whole.drop limit)

/-- A compaction writes whole frames around what was not read, or leaves the log as it was. -/
theorem rewrite (aligned : log.Aligned) (before after : List α) :
    (log.rewrite before after).2.Aligned := by
  by_cases rewritable : log.Rewritable
  · obtain ⟨ready, whole⟩ := aligned.standing rewritable.isOpen
    obtain ⟨written, succeeded, standing, content, offset, _⟩ :=
      rewrite_spec ready rewritable.givesReads rewritable.takesTemporary before after
    rw [succeeded]
    refine of_ready standing ?_
    rw [unread, content, offset, List.drop_zero]
    exact ((whole_ofRecords before).append whole).append (whole_ofRecords after)
  · obtain ⟨error, temporary, failed⟩ := rewrite_of_not_rewritable rewritable before after
    rw [failed]
    exact ⟨aligned.sound, aligned.nameable, fun isOpen =>
      ⟨(aligned.standing isOpen).1.leaving temporary, (aligned.standing isOpen).2⟩⟩

/-- A call that leaves the log as it was when it fails matters only if it succeeds. -/
theorem conclude {β : Type} (aligned : log.Aligned)
    {outcome : Except StorageError (List β × Log)}
    (kept : ∀ records next, outcome = .ok (records, next) → next.Aligned) :
    (log.conclude outcome).2.Aligned := by
  match outcome, kept with
  | .error _, _ => exact aligned
  | .ok (records, next), kept => exact kept records next rfl

/-- The step: whatever is asked of the log. -/
theorem call (aligned : log.Aligned) (call : Call α) : (log.call call).2.Aligned := by
  have quiet : ∀ {outcome : Except StorageError Log},
      (∀ next, outcome = .ok next → next.Aligned) →
        (log.conclude (outcome.map (([] : List α), ·))).2.Aligned := by
    intro outcome kept
    refine aligned.conclude fun records next concluded => ?_
    cases outcome with
    | error error => cases concluded
    | ok reached =>
        cases concluded
        exact kept _ rfl
  cases call with
  | «open» => exact quiet fun _ => aligned.open
  | close => exact of_closed aligned.sound aligned.nameable rfl
  | store records => exact quiet fun _ => aligned.store
  | load limit => exact aligned.conclude fun _ _ => aligned.load
  | compact before after => exact aligned.rewrite before after
  | reopen threshold => exact of_closed aligned.sound aligned.nameable rfl

/-- The run: call after call. -/
theorem after (aligned : log.Aligned) (calls : List (Call α)) : (log.after calls).Aligned := by
  induction calls generalizing log with
  | nil => exact aligned
  | cons call later ih => exact ih (aligned.call call)

end Aligned

end Log

open TrafficMeter.Spool.Frame

/-- Opening any file, with any offset kept beside it.  This fails only where the name leads to
something else, or where the headers of frames cannot be read.  The offset is inside the file, and only the
beginning of a frame that was not completed is cut off.  Whole frames are left behind the offset; a
load gives what it would have given with the torn end still there.  If every frame holds a record,
a load without a limit gives them all and leaves nothing.  Opening again, with this log object or
another one, changes nothing.  And whatever is asked of the log after that, a store writes behind
whole frames. -/
theorem opening_cuts_torn_tail {disk : Disk} (sound : disk.Sound) (threshold : Nat) :
    ((∃ opened, (Log.create disk threshold).open = .ok opened) ↔ disk.Openable) ∧
    ∀ opened, (Log.create disk threshold).open = .ok opened →
      ∃ (torn : Bytes) (frames : List Bytes),
        opened.offset ≤ opened.content.length ∧
        disk.logContent = opened.content ++ torn ∧ Torn torn ∧
        (∀ payload ∈ frames, payload.length ≤ largestPayload) ∧
        opened.unread = frames.flatMap ofPayload ∧
        (∀ limit, ((opened.setContent disk.logContent).load (α := α) limit).map Prod.fst =
          (opened.load limit).map Prod.fst) ∧
        (disk.refusesReads = false →
          (∀ payload ∈ frames, ∃ record : α, Record.decode payload = .ok record) →
          ∀ limit, frames.length ≤ limit → ∃ (records : List α) (moved : Log),
            opened.load limit = .ok (records, moved) ∧ HeldBy frames records ∧
              moved.pending = .ok 0) ∧
        (opened.open = .ok opened ∧ opened.close.open = .ok opened ∧
          ∀ other, (Log.create opened.disk other).open = .ok { opened with threshold := other }) ∧
        ∀ (calls : List (Log.Call α)) (records : List α) (grown : Log),
          let reached := opened.after calls
          reached.isOpen = true → reached.store records = .ok grown →
            reached.offset ≤ reached.content.length ∧ Whole reached.unread ∧
              grown.content = reached.content ++ ofRecords records ∧
              grown.offset = reached.offset := by
  have closed : (Log.create disk threshold).isOpen = false := rfl
  refine ⟨Log.exists_open_iff closed sound, fun opened succeeded => ?_⟩
  have openable : disk.Openable := (Log.exists_open_iff closed sound).mp ⟨opened, succeeded⟩
  obtain ⟨_, opens, ready, content, unread, offset, same, agrees⟩ :=
    Log.open_cuts closed sound openable
  cases opens.symm.trans succeeded
  -- what opening leaves off is the end of the unread bytes in which no frame is whole
  obtain ⟨torn, split, none⟩ := exists_torn disk.unread
  have uncut : disk.logContent = opened.content ++ torn := by
    rw [content, List.append_assoc]
    exact (List.take_append_drop _ _).symm.trans (congrArg _ split)
  have whole : Whole opened.unread := unread ▸ whole_wholePart disk.unread
  have frames : payloads opened.unread = payloads disk.unread := unread ▸ payloads_wholePart _
  refine ⟨torn, payloads opened.unread, ready.within, uncut, torn_iff.mpr none,
    fun _ => short_of_mem_payloads, whole.wholePart_eq.symm, fun limit => ?_, ?_, ?_, ?_⟩
  · have inside : opened.offset ≤ disk.logContent.length := offset ▸ disk.entryOffset_le
    obtain ⟨standing, written, stays, beside⟩ := Log.setContent_spec ready inside
    rw [Log.load_fst standing, Log.load_fst ready, beside.refusesReads]
    have rest : (opened.setContent disk.logContent).unread = disk.unread := by
      rw [Log.unread, written, stays, offset]
      rfl
    rw [rest, Log.Reading.records_ofBytes_congr frames]
  · intro gives decoded limit
    exact Log.load_all ready (agrees.refusesReads.trans gives) whole decoded
  · have shorter : opened.content.length ≤ disk.logContent.length := by
      rw [uncut, List.length_append]
      exact Nat.le_add_right _ _
    have entered := Log.entryOffset_opened ready shorter offset agrees
    have openable' := Log.openable_opened openable ready unread entered agrees
    refine ⟨?_, Log.open_again ready whole entered openable' rfl rfl,
      fun other => Log.open_again ready whole entered openable' rfl rfl⟩
    rw [Log.open, if_pos ready.isOpen]
  -- no call needs the records to be readable: each moves the offset over whole frames, if at all
  · intro calls records grown reached isOpen stored
    obtain ⟨standing, aligned⟩ :=
      ((Log.Aligned.of_ready ready whole).after calls).standing isOpen
    rcases Log.store_eq_ok stored with ⟨nothing, same⟩ | ⟨_, appended⟩
    · rw [nothing, ofRecords_nil, List.append_nil, same]
      exact ⟨standing.within, aligned, rfl, rfl⟩
    · obtain ⟨_, content, offset, _⟩ := Log.append_spec standing (ofRecords records)
      rw [← appended] at content offset
      exact ⟨standing.within, aligned, content, offset⟩

/-- A log of which the first frame was read.  Then come a frame with an empty payload, another one,
and a header with too little behind it. -/
def sampleCutDisk : Disk where
  files := [[1, 0, 97, 0, 0, 2, 0, 98, 99, 5, 0, 100].toByteArray]
  log := .file 0
  offset := .file (Bytes.littleEndian 8 3)

theorem opening_cuts_torn_tail_of_sampleCutDisk :
    ∃ opened moved : Log, (Log.create sampleCutDisk 100).open = .ok opened ∧
      opened.content = [1, 0, 97, 0, 0, 2, 0, 98, 99] ∧
      opened.load 9 = .ok ([(⟨[]⟩ : Octets), ⟨[98, 99]⟩], moved) ∧ moved.pending = .ok 0 ∧
      opened.close.open = .ok opened := by
  have sound : sampleCutDisk.Sound := by
    intro identity named
    cases named
    decide
  have openable : sampleCutDisk.Openable := Disk.openable_of_reads (by decide) rfl
  obtain ⟨opens, finds⟩ := opening_cuts_torn_tail (α := Octets) sound 100
  obtain ⟨opened, succeeded⟩ := opens.mpr openable
  obtain ⟨torn, frames, _, _, _, short, unread, _, loads, ⟨_, again, _⟩, _⟩ :=
    finds opened succeeded
  have content : (Log.create sampleCutDisk 100).open.map Log.content =
      .ok [1, 0, 97, 0, 0, 2, 0, 98, 99] := by decide +kernel
  have rest : (Log.create sampleCutDisk 100).open.map Log.unread =
      .ok (ofPayload [] ++ (ofPayload [98, 99] ++ [])) := by decide +kernel
  rw [succeeded] at content rest
  have found : frames = [[], [98, 99]] := by
    rw [← payloads_flatMap short, ← unread, Except.ok.inj rest,
      payloads_ofPayload_append (by decide), payloads_ofPayload_append (by decide),
      payloads_of_next?_none rfl]
  subst found
  obtain ⟨records, moved, loaded, held, nothing⟩ :=
    loads rfl (fun payload _ => ⟨⟨payload⟩, rfl⟩) 9 (by decide)
  have same : HeldBy [[], [98, 99]] [(⟨[]⟩ : Octets), ⟨[98, 99]⟩] := rfl
  rw [held.unique same] at loaded
  exact ⟨opened, moved, succeeded, Except.ok.inj content, loaded, nothing, again⟩

end TrafficMeter.Spool
