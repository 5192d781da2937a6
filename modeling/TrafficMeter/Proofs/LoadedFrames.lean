/-
Module: TrafficMeter.Proofs.LoadedFrames
Purpose: Loading from any bytes, whatever records are decoded from them.  A load takes the next
  complete frames, never more than it is asked for; what stands behind them stays as it is, be it
  sound or not.  A frame among them that holds no record costs the rest of the log, but not the
  records in front of it.  So loads, one after another, go over every frame at most once.
Main exports: Frame.HeldBy, Frame.holdsRecord, Log.Reading.ofBytes_eq_of_payloads, Log.emptied_ready,
  Log.load_moves, Log.load_whole, Log.load_leaves, Log.loads, Log.loads_spec, load_takes_frames
-/
import Mathlib
import TrafficMeter.Proofs.LogBytes

namespace TrafficMeter.Spool

variable {α : Type} [Record α]

/-! ### Payloads and records -/

namespace Frame

/-- These records are what the payloads decode to, one for one. -/
def HeldBy (payloads : List Bytes) (records : List α) : Prop :=
  payloads.map Record.decode = records.map .ok

variable (α) in
/-- Whether a record is decoded from a payload. -/
def holdsRecord (payload : Bytes) : Bool :=
  (Record.decode payload : Except StorageError α).toBool

theorem heldBy_nil : HeldBy [] ([] : List α) :=
  rfl

theorem HeldBy.cons {payload : Bytes} {record : α} {payloads : List Bytes} {records : List α}
    (decoded : Record.decode payload = .ok record) (held : HeldBy payloads records) :
    HeldBy (payload :: payloads) (record :: records) := by
  rw [HeldBy, List.map_cons, List.map_cons, decoded, held]

theorem HeldBy.append {front back : List Bytes} {first second : List α} (one : HeldBy front first)
    (two : HeldBy back second) : HeldBy (front ++ back) (first ++ second) := by
  rw [HeldBy, List.map_append, List.map_append, one, two]

/-- Payloads decode to the same records each time. -/
theorem HeldBy.unique {payloads : List Bytes} {first second : List α}
    (one : HeldBy payloads first) (two : HeldBy payloads second) : first = second :=
  (List.map_inj_right fun _ _ => Except.ok.inj).mp (one.symm.trans two)

theorem HeldBy.length_eq {payloads : List Bytes} {records : List α}
    (held : HeldBy payloads records) : payloads.length = records.length := by
  have same := congrArg List.length held
  rwa [List.length_map, List.length_map] at same

theorem HeldBy.eq_nil {records : List α} (held : HeldBy [] records) : records = [] :=
  held.unique heldBy_nil

theorem holdsRecord_iff {payload : Bytes} :
    holdsRecord α payload = true ↔ ∃ record : α, Record.decode payload = .ok record := by
  rw [holdsRecord]
  cases (Record.decode payload : Except StorageError α) with
  | error error => exact iff_of_false Bool.false_ne_true (fun ⟨_, impossible⟩ => nomatch impossible)
  | ok record => exact iff_of_true rfl ⟨record, rfl⟩

theorem holdsRecord_of_decode {payload : Bytes} {record : α}
    (decoded : Record.decode payload = .ok record) : holdsRecord α payload = true := by
  rw [holdsRecord, decoded]
  rfl

theorem not_holdsRecord_of_decode {payload : Bytes} {error : StorageError}
    (refused : (Record.decode payload : Except StorageError α) = .error error) :
    holdsRecord α payload = false := by
  rw [holdsRecord, refused]
  rfl

theorem takeWhile_of_all {payloads : List Bytes} (sound : payloads.all (holdsRecord α) = true) :
    payloads.takeWhile (holdsRecord α) = payloads :=
  List.takeWhile_eq_self_iff.mpr fun payload member => List.all_eq_true.mp sound payload member

/-- What stands behind a payload that holds no record does not matter. -/
theorem takeWhile_append_of_not_all {front : List Bytes}
    (unsound : front.all (holdsRecord α) = false) (back : List Bytes) :
    (front ++ back).takeWhile (holdsRecord α) = front.takeWhile (holdsRecord α) := by
  rw [List.takeWhile_append, if_neg]
  intro whole
  have same := (List.takeWhile_prefix (holdsRecord α)).eq_of_length whole
  rw [List.all_eq_true.mpr (List.takeWhile_eq_self_iff.mp same)] at unsound
  cases unsound

/-- The payloads in front of the first one that holds no record. -/
theorem takeWhile_holdsRecord {payloads : List Bytes} {k : Nat} {payload : Bytes}
    (found : payloads[k]? = some payload) (unsound : holdsRecord α payload = false)
    (sound : ∀ earlier ∈ payloads.take k, holdsRecord α earlier = true) :
    payloads.takeWhile (holdsRecord α) = payloads.take k := by
  obtain ⟨inside, rfl⟩ := List.getElem?_eq_some_iff.mp found
  have whole : payloads.take k ++ payloads[k] :: payloads.drop (k + 1) = payloads := by
    rw [← List.drop_eq_getElem_cons inside, List.take_append_drop]
  calc payloads.takeWhile (holdsRecord α)
      = (payloads.take k ++ payloads[k] :: payloads.drop (k + 1)).takeWhile (holdsRecord α) := by
        rw [whole]
    _ = payloads.take k := by
        rw [List.takeWhile_append_of_pos sound, List.takeWhile_cons_of_neg (by simp [unsound]),
          List.append_nil]

end Frame

namespace Log

open TrafficMeter.Spool.Frame

/-! ### Reading -/

/-- Reading goes over the payloads up to the first one that holds no record. -/
theorem Reading.ofBytes_eq_of_payloads (limit : Nat) (bytes : Bytes) :
    let asked := (payloads bytes).take limit
    let sound := asked.takeWhile (holdsRecord α)
    ∃ records : List α, HeldBy sound records ∧ (Reading.ofBytes limit bytes : Reading α) =
      ⟨records, (sound.flatMap ofPayload).length, !asked.all (holdsRecord α)⟩ := by
  induction limit generalizing bytes with
  | zero => exact ⟨[], heldBy_nil, rfl⟩
  | succ limit ih =>
      cases found : next? bytes with
      | none =>
          refine ⟨[], ?_, ?_⟩
          · rw [payloads_of_next?_none found, List.take_nil]
            exact heldBy_nil
          · rw [ofBytes, found, payloads_of_next?_none found]
            rfl
      | some read =>
          obtain ⟨payload, rest⟩ := read
          rw [payloads_of_next? found, List.take_succ_cons, ofBytes, found]
          cases decoded : (Record.decode payload : Except StorageError α) with
          | error error =>
              have unsound := not_holdsRecord_of_decode decoded
              refine ⟨[], ?_, ?_⟩
              · rw [List.takeWhile_cons_of_neg (by simp [unsound])]
                exact heldBy_nil
              · simp [decoded, unsound]
          | ok record =>
              have sound := holdsRecord_of_decode decoded
              obtain ⟨records, held, more⟩ := ih rest
              refine ⟨record :: records, ?_, ?_⟩
              · rw [List.takeWhile_cons_of_pos sound]
                exact held.cons decoded
              · simp [decoded, sound, more, length_ofPayload]

/-! ### One load -/

/-- Under the threshold nothing is dropped. -/
theorem compactIfGrown_of_le {log : Log} (small : log.offset ≤ log.threshold) :
    compactIfGrown α log = log := by
  rw [compactIfGrown, if_neg (Nat.not_lt_of_le small)]

/-- Past the threshold the file is cut to what was not read. -/
theorem compactIfGrown_of_lt {log : Log} (ready : log.Ready)
    (gives : log.disk.refusesReads = false) (free : log.disk.temporary ≠ .directory)
    (grown : log.threshold < log.offset) :
    (compactIfGrown α log).content = log.unread ∧ (compactIfGrown α log).offset = 0 := by
  obtain ⟨written, succeeded, _, content, offset, _⟩ :=
    rewrite_spec ready gives free ([] : List α) []
  rw [compactIfGrown, if_pos grown, succeeded]
  exact ⟨by simpa using content, offset⟩

/-- A log that is emptied has nothing in its file. -/
theorem emptied_ready {log : Log} (ready : log.Ready) :
    let emptied := (log.setContent []).moveTo 0
    emptied.Ready ∧ emptied.content = [] ∧ (log.disk.Obliging → emptied.disk.Obliging) := by
  intro emptied
  obtain ⟨identity, handle, named, inside⟩ := ready.named
  -- the offset may lie past the end of the empty file until it is moved
  let start : Log :=
    { log with disk := log.disk.setContent identity [], handle := some identity, offset := 0 }
  have content : start.content = [] :=
    (content_of_handle rfl).trans (Disk.content_setContent inside [])
  have standing : start.Ready := by
    refine ⟨⟨identity, rfl, named, ?_⟩, Nat.zero_le _⟩
    simpa only [start, Disk.setContent, List.length_set] using inside
  have shape : emptied = start.moveTo 0 := by
    simp only [emptied, setContent, handle]
    rfl
  obtain ⟨ready', content', persisted⟩ := moveTo_spec standing (Nat.zero_le _)
  rw [shape]
  exact ⟨ready', content'.trans content, fun obliging => (persisted ⟨obliging.takesAppends,
    obliging.givesReads, obliging.takesTemporary, obliging.takesOffset⟩).1⟩

/-- Zero goes to the offset file of a log that is emptied, if that can be written. -/
theorem offset_emptied {log : Log} (obliging : log.disk.Obliging) :
    ((log.setContent []).moveTo 0).disk.offset = .file (Bytes.littleEndian 8 0) := by
  have obliging' : (log.setContent []).disk.Obliging := by
    rw [setContent]
    split
    · exact ⟨obliging.takesAppends, obliging.givesReads, obliging.takesTemporary,
        obliging.takesOffset⟩
    · exact obliging
  rw [moveTo, obliging'.writeOffset_eq]

/-- The bytes of the next so many frames. -/
def front (log : Log) (limit : Nat) : Bytes :=
  ((payloads log.unread).take limit).flatMap ofPayload

/-- A log that was moved over the next so many bytes, if any. -/
def moveOver (log : Log) (consumed : Nat) : Log :=
  if consumed = 0 then log else log.moveTo (log.offset + consumed)

/-- Where every frame that is asked for holds a record, a load gives the records and moves over the
frames, before it drops what was read. -/
theorem load_moves {log : Log} (ready : log.Ready) (gives : log.disk.refusesReads = false)
    {limit : Nat} (positive : limit ≠ 0)
    (sound : ((payloads log.unread).take limit).all (holdsRecord α) = true) :
    log.offset + (log.front limit).length ≤ log.content.length ∧
      ∃ records : List α, HeldBy ((payloads log.unread).take limit) records ∧
        log.load limit =
          .ok (records, compactIfGrown α (log.moveOver (log.front limit).length)) := by
  obtain ⟨records, held, read⟩ := Reading.ofBytes_eq_of_payloads (α := α) limit log.unread
  rw [takeWhile_of_all sound] at held read
  refine ⟨?_, records, held, ?_⟩
  · have cut : log.front limit ++ log.unread.drop (log.front limit).length = log.unread :=
      take_payloads_append_drop log.unread limit
    have fewer : (log.front limit).length ≤ log.unread.length := List.IsPrefix.length_le ⟨_, cut⟩
    have within := ready.within
    rw [unread, List.length_drop] at fewer
    omega
  · rw [load_eq ready gives positive, read, sound]
    rfl

/-- Where every frame that is asked for holds a record, a load gives the records and moves over the
frames; what was read is dropped past the threshold, and not before. -/
theorem load_whole {log : Log} (ready : log.Ready) (obliging : log.disk.Obliging) {limit : Nat}
    (positive : limit ≠ 0)
    (sound : ((payloads log.unread).take limit).all (holdsRecord α) = true) :
    ∃ (records : List α) (moved : Log), log.load limit = .ok (records, moved) ∧ moved.Ready ∧
      moved.disk.Obliging ∧ moved.threshold = log.threshold ∧
      HeldBy ((payloads log.unread).take limit) records ∧
      moved.unread = log.unread.drop (log.front limit).length ∧
      if log.offset + (log.front limit).length ≤ log.threshold then
        moved.content = log.content ∧ moved.offset = log.offset + (log.front limit).length
      else moved.content = moved.unread ∧ moved.offset = 0 := by
  obtain ⟨bounded, records, held, loaded⟩ := load_moves ready obliging.givesReads positive sound
  obtain ⟨standing, content, offset, threshold, persisted⟩ := moveOver_spec ready bounded rfl
  obtain ⟨ready', unread', threshold', persisted'⟩ := compactIfGrown_spec (α := α) standing
  have obliging' := (persisted obliging).1
  refine ⟨records, _, loaded, ready', (persisted' obliging').1, threshold'.trans threshold, held,
    unread'.trans (unread_of_moved content offset), ?_⟩
  split
  · next small =>
      rw [← offset, ← threshold] at small
      rw [moveOver, compactIfGrown_of_le small]
      exact ⟨content, offset⟩
  · next grown =>
      rw [← offset, ← threshold] at grown
      obtain ⟨cut, start⟩ := compactIfGrown_of_lt (α := α) standing obliging'.givesReads
        obliging'.takesTemporary (Nat.lt_of_not_le grown)
      exact ⟨cut.trans unread'.symm, start⟩

/-- Where a frame that is asked for holds no record, a load gives the records in front of it and
empties the log. -/
theorem load_unsound {log : Log} (ready : log.Ready) (obliging : log.disk.Obliging) {limit : Nat}
    (positive : limit ≠ 0)
    (unsound : ((payloads log.unread).take limit).all (holdsRecord α) = false) :
    ∃ (records : List α) (emptied : Log), log.load limit = .ok (records, emptied) ∧ emptied.Ready ∧
      emptied.disk.Obliging ∧
      HeldBy (((payloads log.unread).take limit).takeWhile (holdsRecord α)) records ∧
      emptied.content = [] ∧ emptied.offset = 0 ∧
      emptied.disk.offset = .file (Bytes.littleEndian 8 0) := by
  obtain ⟨records, held, read⟩ := Reading.ofBytes_eq_of_payloads (α := α) limit log.unread
  obtain ⟨standing, content, obliging'⟩ := emptied_ready ready
  refine ⟨records, _, ?_, standing, obliging' obliging, held, content, rfl,
    offset_emptied obliging⟩
  rw [load_eq ready obliging.givesReads positive, read, unsound]
  rfl

/-- Whatever a load gives, it gives no more than it was asked for; and it takes the frames that were
asked for away, or everything. -/
theorem load_leaves {log moved : Log} (ready : log.Ready) {limit : Nat} {records : List α}
    (loaded : log.load limit = .ok (records, moved)) :
    moved.Ready ∧ records.length ≤ limit ∧
      (moved.unread = [] ∨ moved.unread = log.unread.drop (log.front limit).length) := by
  by_cases nothing : limit = 0
  · subst nothing
    cases loaded
    exact ⟨ready, Nat.le_refl 0, .inr rfl⟩
  cases gives : log.disk.refusesReads with
  | true =>
      obtain ⟨error, failed⟩ := load_of_refusesReads (α := α) ready gives nothing
      cases failed.symm.trans loaded
  | false =>
      cases sound : ((payloads log.unread).take limit).all (holdsRecord α) with
      | true =>
          obtain ⟨bounded, records, held, succeeded⟩ := load_moves ready gives nothing sound
          cases succeeded.symm.trans loaded
          obtain ⟨standing, content, offset, _⟩ := moveOver_spec ready bounded rfl
          obtain ⟨ready', unread, _⟩ := compactIfGrown_spec (α := α) standing
          exact ⟨ready', held.length_eq ▸ List.length_take_le _ _,
            .inr (unread.trans (unread_of_moved content offset))⟩
      | false =>
          obtain ⟨records, held, read⟩ := Reading.ofBytes_eq_of_payloads (α := α) limit log.unread
          obtain ⟨standing, content, _⟩ := emptied_ready ready
          have succeeded : log.load limit = .ok (records, (log.setContent []).moveTo 0) := by
            rw [load_eq ready gives nothing, read, sound]
            rfl
          cases succeeded.symm.trans loaded
          refine ⟨standing, ?_, .inl ?_⟩
          · have fewer := (List.takeWhile_sublist (holdsRecord α)
              (l := (payloads log.unread).take limit)).length_le
            exact held.length_eq ▸ fewer.trans (List.length_take_le _ _)
          · rw [unread, content, List.drop_nil]

/-! ### Load after load -/

/-- What a load leaves of the frames: those behind the ones asked for, or none. -/
theorem load_step {log : Log} (ready : log.Ready) (obliging : log.disk.Obliging) (limit : Nat) :
    let asked := (payloads log.unread).take limit
    ∃ (records : List α) (moved : Log), log.load limit = .ok (records, moved) ∧ moved.Ready ∧
      moved.disk.Obliging ∧ HeldBy (asked.takeWhile (holdsRecord α)) records ∧
      payloads moved.unread =
        if asked.all (holdsRecord α) then (payloads log.unread).drop limit else [] := by
  intro asked
  by_cases nothing : limit = 0
  · subst nothing
    exact ⟨[], log, rfl, ready, obliging, heldBy_nil, rfl⟩
  · cases sound : asked.all (holdsRecord α) with
    | true =>
        obtain ⟨records, moved, loaded, ready', obliging', _, held, unread, _⟩ :=
          load_whole ready obliging nothing sound
        rw [takeWhile_of_all sound]
        refine ⟨records, moved, loaded, ready', obliging', held, ?_⟩
        rw [unread, front, payloads_drop]
        rfl
    | false =>
        obtain ⟨records, emptied, loaded, ready', obliging', held, content, _⟩ :=
          load_unsound ready obliging nothing sound
        refine ⟨records, emptied, loaded, ready', obliging', held, ?_⟩
        rw [unread, content, List.drop_nil]
        exact payloads_of_next?_none rfl

/-- Load so many records, then so many more, and so on. -/
def loads (log : Log) : List Nat → Except StorageError (List (List α) × Log)
  | [] => .ok ([], log)
  | limit :: later => do
      let (records, moved) ← log.load limit
      let (answers, reached) ← moved.loads later
      return (records :: answers, reached)

theorem loads_cons {log moved reached : Log} {limit : Nat} {later : List Nat} {records : List α}
    {answers : List (List α)} (first : log.load limit = .ok (records, moved))
    (others : moved.loads later = .ok (answers, reached)) :
    log.loads (limit :: later) = .ok (records :: answers, reached) := by
  rw [loads, first]
  show (do let (answers, reached) ← moved.loads later; return (records :: answers, reached)) = _
  rw [others]
  rfl

/-- Loads, one after another, give the records of the frames that they ask for together, up to the
first frame that holds none; behind that one nothing is left to be loaded. -/
theorem loads_spec {log : Log} (ready : log.Ready) (obliging : log.disk.Obliging)
    (limits : List Nat) :
    let asked := (payloads log.unread).take limits.sum
    ∃ (answers : List (List α)) (reached : Log), log.loads limits = .ok (answers, reached) ∧
      HeldBy (asked.takeWhile (holdsRecord α)) answers.flatten ∧
      payloads reached.unread =
        if asked.all (holdsRecord α) then (payloads log.unread).drop limits.sum else [] := by
  induction limits generalizing log with
  | nil => exact ⟨[], log, rfl, heldBy_nil, rfl⟩
  | cons limit later ih =>
      obtain ⟨records, moved, loaded, ready', obliging', held, left⟩ :=
        load_step (α := α) ready obliging limit
      obtain ⟨answers, reached, others, held', left'⟩ := ih ready' obliging'
      refine ⟨records :: answers, reached, loads_cons loaded others, ?_⟩
      rw [List.flatten_cons, List.sum_cons, List.take_add, List.all_append]
      cases sound : ((payloads log.unread).take limit).all (holdsRecord α) with
      | true =>
          rw [sound, if_pos rfl] at left
          rw [takeWhile_of_all sound] at held
          rw [left] at held' left'
          rw [List.takeWhile_append_of_pos fun payload member =>
            List.all_eq_true.mp sound payload member, Bool.true_and, ← List.drop_drop]
          exact ⟨held.append held', left'⟩
      | false =>
          rw [sound, if_neg Bool.false_ne_true] at left
          rw [left, List.take_nil] at held' left'
          rw [takeWhile_append_of_not_all sound, held'.eq_nil, List.append_nil, Bool.false_and]
          exact ⟨held, left'.trans (List.drop_nil)⟩

end Log

open TrafficMeter.Spool.Frame

/-- Loading from any bytes, whatever records are decoded from them.  The frames are all complete
ones from the offset on.  If the first one that holds no record is among those asked for, the load
gives the records in front of it and empties the log and the offset.  Otherwise it gives the records
of the frames asked for and moves over them; what stands behind stays as it is, and the file too,
unless the offset has passed the threshold: then the file is cut to what was not read.  So loads,
one after another, give the record of no frame twice, and leave nothing to be loaded at a frame that
holds none. -/
theorem load_takes_frames {log : Log} (ready : log.Ready) (obliging : log.disk.Obliging) :
    let frames := payloads log.unread
    (∃ torn, log.unread = frames.flatMap ofPayload ++ torn ∧ next? torn = none) ∧
      (∀ limit, 1 ≤ limit → ∃ (records : List α) (moved : Log),
        log.load limit = .ok (records, moved) ∧
          (∀ (k : Nat) (payload : Bytes) (error : StorageError), k < limit →
            frames[k]? = some payload →
            (Record.decode payload : Except StorageError α) = .error error →
            (∀ earlier ∈ frames.take k, ∃ record : α, Record.decode earlier = .ok record) →
              HeldBy (frames.take k) records ∧ moved.content = [] ∧ moved.offset = 0 ∧
                moved.disk.offset = .file (Bytes.littleEndian 8 0)) ∧
          ((∀ payload ∈ frames.take limit, ∃ record : α, Record.decode payload = .ok record) →
            let size := ((frames.take limit).flatMap ofPayload).length
            HeldBy (frames.take limit) records ∧ moved.unread = log.unread.drop size ∧
              if log.offset + size ≤ log.threshold then
                moved.content = log.content ∧ moved.offset = log.offset + size
              else moved.content = moved.unread ∧ moved.offset = 0)) ∧
      ∀ limits : List Nat, ∃ (answers : List (List α)) (reached : Log),
        log.loads limits = .ok (answers, reached) ∧
          HeldBy ((frames.take limits.sum).takeWhile (holdsRecord α)) answers.flatten ∧
          payloads reached.unread =
            if (frames.take limits.sum).all (holdsRecord α) then frames.drop limits.sum
            else [] := by
  intro frames
  refine ⟨exists_torn log.unread, fun limit positive => ?_, Log.loads_spec ready obliging⟩
  have asking : limit ≠ 0 := Nat.ne_of_gt positive
  cases sound : (frames.take limit).all (holdsRecord α) with
  | true =>
      have all := List.all_eq_true.mp sound
      obtain ⟨records, moved, loaded, _, _, _, held, rest⟩ :=
        Log.load_whole ready obliging asking sound
      refine ⟨records, moved, loaded, ?_, fun _ => ⟨held, rest⟩⟩
      intro k payload error inside found refused _
      have member : payload ∈ frames.take limit :=
        List.mem_of_getElem? ((List.getElem?_take_of_lt inside).trans found)
      have impossible := (all payload member).symm.trans (not_holdsRecord_of_decode refused)
      cases impossible
  | false =>
      obtain ⟨records, emptied, loaded, _, _, held, rest⟩ :=
        Log.load_unsound ready obliging asking sound
      refine ⟨records, emptied, loaded, ?_, ?_⟩
      · intro k payload error inside found refused earlier
        have front : ((frames.take limit).take k) = frames.take k := by
          rw [List.take_take, Nat.min_eq_left (Nat.le_of_lt inside)]
        have cut := takeWhile_holdsRecord ((List.getElem?_take_of_lt inside).trans found)
          (not_holdsRecord_of_decode refused)
          fun payload member => holdsRecord_iff.mpr (earlier payload (front ▸ member))
        rw [cut, front] at held
        exact ⟨held, rest⟩
      · intro all
        have impossible := List.all_eq_true.mpr fun payload member =>
          holdsRecord_iff.mpr (all payload member)
        cases impossible.symm.trans sound

/-- A record that is one octet. -/
structure Octet where
  value : UInt8
deriving DecidableEq, Repr

instance : Record Octet where
  encode octet := .ok [octet.value]
  decode
    | [value] => .ok ⟨value⟩
    | _ => .error (.decodeFailed "the bytes are not one octet")

/-- A log of which the first record was read.  Then come a record, a frame that holds none, another
record, and a torn frame. -/
def sampleDamagedLog : Log where
  disk :=
    { files :=
        [(ofPayload [1] ++ ofPayload [2] ++ ofPayload [] ++ ofPayload [3] ++ [9]).toByteArray]
      log := .file 0 }
  threshold := 4
  handle := some 0
  offset := 3

theorem load_takes_frames_of_sampleDamagedLog :
    (∃ moved, sampleDamagedLog.load 1 = .ok ([Octet.mk 2], moved) ∧
        moved.content = [0, 0, 1, 0, 3, 9] ∧ moved.offset = 0) ∧
      (∃ moved, sampleDamagedLog.load 9 = .ok ([Octet.mk 2], moved) ∧ moved.content = []) ∧
      ∃ answers reached, sampleDamagedLog.loads [1, 1, 9] = .ok (answers, reached) ∧
        answers.flatten = [Octet.mk 2] ∧ payloads reached.unread = [] := by
  have ready : sampleDamagedLog.Ready := ⟨⟨0, rfl, rfl, by decide⟩, by decide⟩
  have obliging : sampleDamagedLog.disk.Obliging := ⟨rfl, rfl, by decide, by decide⟩
  have unread : sampleDamagedLog.unread =
      ofPayload [2] ++ (ofPayload [] ++ (ofPayload [3] ++ [9])) := by decide
  have frames : payloads sampleDamagedLog.unread = [[2], [], [3]] := by
    rw [unread, payloads_ofPayload_append (by decide), payloads_ofPayload_append (by decide),
      payloads_ofPayload_append (by decide), payloads_of_next?_none rfl]
  have first : HeldBy [[2]] [Octet.mk 2] := rfl
  obtain ⟨_, once, again⟩ := load_takes_frames (α := Octet) ready obliging
  rw [frames] at once again
  refine ⟨?_, ?_, ?_⟩
  · obtain ⟨records, moved, loaded, _, sound⟩ := once 1 (Nat.le_refl _)
    obtain ⟨held, rest, cut, start⟩ := sound fun payload member =>
      ⟨⟨2⟩, by rw [List.mem_singleton.mp member]; rfl⟩
    rw [held.unique first] at loaded
    refine ⟨moved, loaded, cut.trans (rest.trans ?_), start⟩
    rw [unread]
    rfl
  · obtain ⟨records, moved, loaded, unsound, _⟩ := once 9 (by decide)
    obtain ⟨held, emptied, _⟩ := unsound 1 [] _ (by decide) rfl rfl fun payload member =>
      ⟨⟨2⟩, by rw [List.mem_singleton.mp member]; rfl⟩
    rw [held.unique first] at loaded
    exact ⟨moved, loaded, emptied⟩
  · obtain ⟨answers, reached, loaded, held, left⟩ := again [1, 1, 9]
    exact ⟨answers, reached, loaded, held.unique first, left⟩

end TrafficMeter.Spool
