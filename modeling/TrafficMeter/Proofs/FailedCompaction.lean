/-
Module: TrafficMeter.Proofs.FailedCompaction
Purpose: A compaction that cannot write its temporary file changes nothing, and nobody who loads
  records can tell whether it was tried.  What a log answers depends on the bytes not read yet alone,
  not on what stands in front of them; so a log on which compactions fail, whichever they are, answers
  as one does on which they are left out or succeed.
Main exports: Log.Trial, Log.attempt, Trial.eased, Tail, Tail.attempt, Log.Shows, Shows.attempt,
  Tail.after_eased, failed_compactions_unseen
-/
import TrafficMeter.Proofs.LoadedFrames
import TrafficMeter.Proofs.LogRefinement

namespace TrafficMeter.Spool

open TrafficMeter.Spool.Frame

variable {α : Type} [Record α]

/-! ### What a directory refuses -/

namespace Disk

/-- Two directories that refuse the same. -/
structure SameRefusals (disk other : Disk) : Prop where
  appends : other.refusesAppends = disk.refusesAppends
  reads : other.refusesReads = disk.refusesReads

namespace SameRefusals

variable {disk other third : Disk}

theorem refl (disk : Disk) : SameRefusals disk disk :=
  ⟨rfl, rfl⟩

theorem trans (one : SameRefusals disk other) (two : SameRefusals other third) :
    SameRefusals disk third :=
  ⟨two.appends.trans one.appends, two.reads.trans one.reads⟩

theorem of_agreesBeside (agrees : AgreesBeside disk other) : SameRefusals disk other :=
  ⟨agrees.refusesAppends, agrees.refusesReads⟩

/-- Writing the offset, done or refused, changes nothing about what is refused. -/
theorem writeOffset (disk : Disk) (offset : Nat) :
    SameRefusals disk (disk.writeOffset offset) := by
  rw [Disk.writeOffset]
  split <;> exact ⟨rfl, rfl⟩

end SameRefusals

end Disk

namespace Log

/-- A compaction, done or failed, leaves the disk's refusals as they were. -/
theorem rewrite_sameRefusals (log : Log) (before after : List α) :
    log.disk.SameRefusals (log.rewrite before after).2.disk := by
  by_cases rewritable : log.Rewritable
  · rw [rewrite_eq rewritable]
    exact ⟨rfl, rfl⟩
  · obtain ⟨error, temporary, failed⟩ := rewrite_of_not_rewritable rewritable before after
    rw [failed]
    exact ⟨rfl, rfl⟩

theorem compactIfGrown_sameRefusals (log : Log) :
    log.disk.SameRefusals (compactIfGrown α log).disk := by
  rw [compactIfGrown]
  split
  · exact rewrite_sameRefusals log [] []
  · exact .refl _

theorem moveTo_sameRefusals (log : Log) (offset : Nat) :
    log.disk.SameRefusals (log.moveTo offset).disk :=
  .writeOffset log.disk offset

theorem emptied_sameRefusals (log : Log) :
    log.disk.SameRefusals ((log.setContent []).moveTo 0).disk := by
  refine .trans ?_ (moveTo_sameRefusals (log.setContent []) 0)
  rw [setContent]
  split <;> exact ⟨rfl, rfl⟩

theorem moveOver_sameRefusals (log : Log) (consumed : Nat) :
    log.disk.SameRefusals (log.moveOver consumed).disk := by
  rw [moveOver]
  split
  · exact .refl _
  · exact moveTo_sameRefusals log _

theorem temporary_moveOver (log : Log) (consumed : Nat) :
    (log.moveOver consumed).disk.temporary = log.disk.temporary := by
  rw [moveOver]
  split
  · rfl
  · rw [moveTo, Disk.writeOffset]
    split <;> rfl

/-! ### A compaction that fails -/

/-- No rewrite succeeds where the temporary file cannot be written, and the log stays as it is.  With
nothing else in its way, that is what it reports. -/
theorem rewrite_of_directory {log : Log} (taken : log.disk.temporary = .directory)
    (before after : List α) : ∃ error, log.rewrite before after = (.error error, log) ∧
      (log.isOpen = true → log.disk.refusesReads = false →
        error = .io "the temporary file cannot be written") := by
  by_cases isOpen : log.isOpen = true
  · cases gives : log.disk.refusesReads with
    | true =>
        refine ⟨.io "the log cannot be read", ?_, fun _ given => nomatch given⟩
        rw [rewrite, if_neg (by simp [isOpen]), if_pos gives]
    | false =>
        refine ⟨.io "the temporary file cannot be written", ?_, fun _ _ => rfl⟩
        rw [rewrite, if_neg (by simp [isOpen]), if_neg (by simp [gives]), compaction,
          Disk.applyAll_of_directory taken]
  · refine ⟨.notOpen, ?_, fun opened => absurd opened isOpen⟩
    rw [rewrite, eq_false_of_ne_true isOpen]
    rfl

/-- A compaction that failed, whatever was in its way, left at most a temporary file behind. -/
theorem call_compact_failed {log : Log} {before after : List α} {error : StorageError}
    (failed : (log.call (.compact before after)).1 = .error error) :
    ∃ temporary, (log.call (.compact before after)).2 = log.leaving temporary := by
  by_cases rewritable : log.Rewritable
  · rw [call, rewrite_eq rewritable] at failed
    cases failed
  · obtain ⟨_, temporary, left⟩ := rewrite_of_not_rewritable rewritable before after
    exact ⟨temporary, by rw [call, left]⟩

/-! ### Trials -/

/-- A call to an open log, and whether the name of the temporary file is barred to a compaction in it,
be that asked for or done by a load. -/
inductive Trial (α : Type) where
  | store (records : List α)
  | load (limit : Nat) (barred : Bool)
  | compact (before after : List α) (barred : Bool)

/-- A log whose temporary file can be written, or not, from now on. -/
def face (log : Log) (barred : Bool) : Log :=
  { log with disk := if barred then log.disk.blockTemporary else log.disk.unblockTemporary }

def attempt (log : Log) : Trial α → Reply α × Log
  | .store records => log.call (.store records)
  | .load limit barred => (log.face barred).call (.load limit)
  | .compact before after barred => (log.face barred).call (.compact before after)

def afterTrials (log : Log) (trials : List (Trial α)) : Log :=
  trials.foldl (fun log trial => (log.attempt trial).2) log

/-- The trial without a bar; a compaction that was asked for in vain is left out. -/
def Trial.eased : Trial α → Option (Trial α)
  | .store records => some (.store records)
  | .load limit _ => some (.load limit false)
  | .compact before after barred => if barred then none else some (.compact before after false)

theorem face_temporary_iff (log : Log) (barred : Bool) :
    (log.face barred).disk.temporary = .directory ↔ barred = true := by
  cases barred with
  | true => exact iff_of_true rfl rfl
  | false =>
      refine iff_of_false (fun taken => ?_) Bool.false_ne_true
      revert taken
      rw [face, if_neg Bool.false_ne_true, Disk.unblockTemporary]
      split
      · exact fun taken => nomatch taken
      · next free => exact free

/-- A bar is put up and taken down beside the log. -/
theorem face_eq (log : Log) (barred : Bool) : ∃ temporary,
    log.face barred = { log with disk := { log.disk with temporary } } := by
  rw [face]
  split
  · exact ⟨_, rfl⟩
  · rw [Disk.unblockTemporary]
    split <;> exact ⟨_, rfl⟩

end Log

/-! ### The tail -/

/-- The bytes of a log that were not read yet, and what its directory refuses. -/
structure Tail where
  unread : Bytes
  refusesAppends : Bool
  refusesReads : Bool

namespace Tail

/-- What a trial does to a tail; compactions in a load do nothing to it. -/
def attempt (tail : Tail) : Log.Trial α → Log.Reply α × Tail
  | .store records =>
      if records.isEmpty then (.ok [], tail)
      else if tail.refusesAppends then (.error (.io "the log takes no further bytes"), tail)
      else (.ok [], { tail with unread := tail.unread ++ Frame.ofRecords records })
  | .load limit _ =>
      if limit = 0 then (.ok [], tail)
      else if tail.refusesReads then (.error (.io "the log cannot be read"), tail)
      else
        let reading : Log.Reading α := .ofBytes limit tail.unread
        (.ok reading.records,
          { tail with
            unread := if reading.corrupted then [] else tail.unread.drop reading.consumed })
  | .compact before after barred =>
      if tail.refusesReads then (.error (.io "the log cannot be read"), tail)
      else if barred then (.error (.io "the temporary file cannot be written"), tail)
      else (.ok [], { tail with
        unread := Frame.ofRecords before ++ tail.unread ++ Frame.ofRecords after })

def after (tail : Tail) (trials : List (Log.Trial α)) : Tail :=
  trials.foldl (fun tail trial => (tail.attempt trial).2) tail

theorem attempt_eased (tail : Tail) {trial kept : Log.Trial α} (eased : trial.eased = some kept) :
    tail.attempt kept = tail.attempt trial := by
  cases trial with
  | store records => cases eased; rfl
  | load limit barred => cases eased; rfl
  | compact before after barred =>
      cases barred with
      | true => cases eased
      | false => cases eased; rfl

theorem refusesReads_attempt (tail : Tail) (trial : Log.Trial α) :
    (tail.attempt trial).2.refusesReads = tail.refusesReads := by
  cases trial with
  | store records =>
      rw [attempt]
      split
      · rfl
      · split <;> rfl
  | load limit barred =>
      rw [attempt]
      split
      · rfl
      · split <;> rfl
  | compact before after barred =>
      rw [attempt]
      split
      · rfl
      · split <;> rfl

/-- No trial changes what the disk refuses to read. -/
theorem refusesReads_after (tail : Tail) (trials : List (Log.Trial α)) :
    (tail.after trials).refusesReads = tail.refusesReads := by
  induction trials generalizing tail with
  | nil => rfl
  | cons trial later ih => exact (ih (tail.attempt trial).2).trans (tail.refusesReads_attempt trial)

/-- A compaction that was asked for in vain does nothing. -/
theorem attempt_vain (tail : Tail) {trial : Log.Trial α} (vain : trial.eased = none) :
    (tail.attempt trial).2 = tail := by
  cases trial with
  | store records => cases vain
  | load limit barred => cases vain
  | compact before after barred =>
      cases barred with
      | true =>
          rw [attempt]
          split <;> rfl
      | false => cases vain

/-- A tail is the same after the trials without bars. -/
theorem after_eased (tail : Tail) (trials : List (Log.Trial α)) :
    tail.after (trials.filterMap Log.Trial.eased) = tail.after trials := by
  induction trials generalizing tail with
  | nil => rfl
  | cons trial later ih =>
      cases eased : trial.eased with
      | none =>
          rw [List.filterMap_cons_none eased, ih, after, after, List.foldl_cons,
            tail.attempt_vain eased]
      | some kept =>
          rw [List.filterMap_cons_some eased, after, List.foldl_cons, tail.attempt_eased eased]
          exact ih _

end Tail

/-! ### A log shows its tail -/

/-- A log whose unread bytes and refusals are those of a tail. -/
structure Log.Shows (log : Log) (tail : Tail) : Prop where
  ready : log.Ready
  unread : log.unread = tail.unread
  appends : log.disk.refusesAppends = tail.refusesAppends
  reads : log.disk.refusesReads = tail.refusesReads

namespace Log.Shows

variable {log next : Log} {tail : Tail}

/-- An open log shows its own tail. -/
theorem of_ready (ready : log.Ready) :
    log.Shows ⟨log.unread, log.disk.refusesAppends, log.disk.refusesReads⟩ :=
  ⟨ready, rfl, rfl, rfl⟩

/-- A step that leaves an open log with the unread bytes the tail has, on a disk with the same
refusals, goes on showing it. -/
theorem move (shown : log.Shows tail) (ready : next.Ready) {bytes : Bytes}
    (unread : next.unread = bytes) (same : log.disk.SameRefusals next.disk) :
    next.Shows { tail with unread := bytes } :=
  ⟨ready, unread, same.appends.trans shown.appends, same.reads.trans shown.reads⟩

theorem face (shown : log.Shows tail) (barred : Bool) : (log.face barred).Shows tail := by
  obtain ⟨temporary, faced⟩ := log.face_eq barred
  rw [faced]
  exact ⟨⟨shown.ready.named, shown.ready.within⟩, shown.unread, shown.appends, shown.reads⟩

/-- A trial is answered by a log and by its tail alike, and leads to a log that shows the tail. -/
def Agrees (log : Log) (tail : Tail) (trial : Log.Trial α) : Prop :=
  (log.attempt trial).1 = (tail.attempt trial).1 ∧ (log.attempt trial).2.Shows (tail.attempt trial).2

/-- To agree on a trial, log and tail need one reply and a log that still shows the tail. -/
theorem agrees {tail' : Tail} (shown : next.Shows tail') {trial : Trial α} {reply : Reply α}
    (one : log.attempt trial = (reply, next)) (two : tail.attempt trial = (reply, tail')) :
    Agrees log tail trial := by
  rw [Agrees, one, two]
  exact ⟨rfl, shown⟩

/-- Stores reply alike and append the same frames. -/
theorem agrees_store (shown : log.Shows tail) (records : List α) :
    Agrees log tail (.store records) := by
  cases records with
  | nil => exact agrees shown rfl rfl
  | cons record others =>
      cases refuses : tail.refusesAppends with
      | true =>
          have failed : log.attempt (.store (record :: others)) =
              (.error (.io "the log takes no further bytes"), log) := by
            simp [attempt, call, store, shown.ready.isOpen, shown.appends, refuses]
            rfl
          exact agrees shown failed (by rw [Tail.attempt, refuses]; rfl)
      | false =>
          obtain ⟨grown, succeeded, ready, content, offset, _, beside⟩ :=
            store_spec shown.ready (shown.appends.trans refuses) (record :: others)
          have unread := unread_of_content_append shown.ready content offset
          rw [shown.unread] at unread
          have stored : log.attempt (.store (record :: others)) = (.ok [], grown) := by
            rw [attempt, call, succeeded]
            rfl
          exact agrees (shown.move ready unread (.of_agreesBeside beside)) stored
            (by simp [Tail.attempt, refuses])

/-- What a load leaves is told by the bytes not read yet. -/
theorem loaded (shown : log.Shows tail) (gives : tail.refusesReads = false) {limit : Nat}
    (positive : limit ≠ 0) :
    let reading : Reading α := .ofBytes limit tail.unread
    ∃ moved, log.load limit = .ok (reading.records, moved) ∧ moved.Shows { tail with
      unread := if reading.corrupted then [] else tail.unread.drop reading.consumed } := by
  have taken := Reading.consumed_le (α := α) limit tail.unread
  have loaded := load_eq (α := α) shown.ready (shown.reads.trans gives) positive
  rw [shown.unread] at loaded
  generalize (Reading.ofBytes limit tail.unread : Reading α) = reading at loaded taken ⊢
  obtain ⟨records, consumed, corrupted⟩ := reading
  refine ⟨_, loaded, ?_⟩
  cases corrupted with
  | true =>
      obtain ⟨ready, content, _⟩ := emptied_ready shown.ready
      refine shown.move ready ?_ (emptied_sameRefusals log)
      show List.drop _ ((log.setContent []).moveTo 0).content = []
      rw [content, List.drop_nil]
  | false =>
      have bounded : log.offset + consumed ≤ log.content.length := by
        have within := shown.ready.within
        rw [← shown.unread, Log.unread, List.length_drop] at taken
        dsimp only at taken
        omega
      obtain ⟨standing, content, offset, _⟩ := moveOver_spec shown.ready bounded rfl
      obtain ⟨ready, kept, _⟩ := compactIfGrown_spec (α := α) standing
      refine shown.move ready ?_
        ((moveOver_sameRefusals log consumed).trans (compactIfGrown_sameRefusals _))
      show (compactIfGrown α _).unread = tail.unread.drop consumed
      rw [kept, unread_of_moved content offset, shown.unread]

/-- Loads read the same records, whether or not the compaction that may follow them fails. -/
theorem agrees_load (shown : log.Shows tail) (limit : Nat) (barred : Bool) :
    Agrees log tail (.load limit barred : Trial α) := by
  have faced := shown.face barred
  by_cases nothing : limit = 0
  · subst nothing
    exact agrees faced rfl rfl
  · cases refuses : tail.refusesReads with
    | true =>
        have failed : log.attempt (.load limit barred : Trial α) =
            (.error (.io "the log cannot be read"), log.face barred) := by
          simp [attempt, call, load, nothing, faced.ready.isOpen, faced.reads, refuses]
          rfl
        exact agrees faced failed (by rw [Tail.attempt, if_neg nothing, refuses]; rfl)
    | false =>
        obtain ⟨moved, succeeded, others⟩ := faced.loaded (α := α) refuses nothing
        have loaded : log.attempt (.load limit barred) =
            (.ok (Reading.ofBytes limit tail.unread : Reading α).records, moved) := by
          rw [attempt, call, succeeded]
          rfl
        exact agrees others loaded (by rw [Tail.attempt, if_neg nothing, refuses]; rfl)

/-- A compaction that succeeds splices the same bytes on both sides; one that fails changes neither.
-/
theorem agrees_compact (shown : log.Shows tail) (before after : List α) (barred : Bool) :
    Agrees log tail (.compact before after barred) := by
  have faced := shown.face barred
  have tried {result : Except StorageError Unit} {next : Log}
      (rewrote : (log.face barred).rewrite before after = (result, next)) :
      log.attempt (.compact before after barred) = (result.map fun _ => [], next) := by
    rw [attempt, call, rewrote]
  cases refuses : tail.refusesReads with
  | true =>
      have failed : (log.face barred).rewrite before after =
          (.error (.io "the log cannot be read"), log.face barred) := by
        rw [rewrite, if_neg (by simp [faced.ready.isOpen]), if_pos (faced.reads.trans refuses)]
      exact agrees faced (tried failed) (by rw [Tail.attempt, refuses]; rfl)
  | false =>
      have gives := faced.reads.trans refuses
      cases barred with
      | true =>
          obtain ⟨error, failed, reason⟩ :=
            rewrite_of_directory ((log.face_temporary_iff true).mpr rfl) before after
          cases reason faced.ready.isOpen gives
          exact agrees faced (tried failed) (by rw [Tail.attempt, refuses]; rfl)
      | false =>
          have free : (log.face false).disk.temporary ≠ .directory :=
            fun taken => Bool.false_ne_true ((log.face_temporary_iff false).mp taken)
          obtain ⟨written, succeeded, ready, content, offset, _⟩ :=
            rewrite_spec faced.ready gives free before after
          have unread : written.unread =
              Frame.ofRecords before ++ tail.unread ++ Frame.ofRecords after := by
            rw [Log.unread, content, offset, List.drop_zero, faced.unread]
          have same := rewrite_sameRefusals (log.face false) before after
          rw [succeeded] at same
          exact agrees (faced.move ready unread same) (tried succeeded)
            (by rw [Tail.attempt, refuses]; rfl)

/-- One trial. -/
theorem attempt (shown : log.Shows tail) (trial : Trial α) : Agrees log tail trial := by
  cases trial with
  | store records => exact shown.agrees_store records
  | load limit barred => exact shown.agrees_load limit barred
  | compact before after barred => exact shown.agrees_compact before after barred

/-- The run. -/
theorem afterTrials (shown : log.Shows tail) (trials : List (Trial α)) :
    (log.afterTrials trials).Shows (tail.after trials) := by
  induction trials generalizing log tail with
  | nil => exact shown
  | cons trial later ih => exact ih (shown.attempt trial).2

end Log.Shows

/-! ### What a load leaves -/

namespace Log

/-- Reading gives the records in front of the first frame asked for that holds none, and leaves the
frames that were not asked for, or none. -/
theorem Reading.payloads_left (limit : Nat) (bytes : Bytes) :
    let asked := (payloads bytes).take limit
    let reading : Reading α := .ofBytes limit bytes
    HeldBy (asked.takeWhile (holdsRecord α)) reading.records ∧
      payloads (if reading.corrupted then [] else bytes.drop reading.consumed) =
        if asked.all (holdsRecord α) then (payloads bytes).drop limit else [] := by
  intro asked reading
  obtain ⟨records, held, read⟩ := Reading.ofBytes_eq_of_payloads (α := α) limit bytes
  have whole : reading = _ := read
  rw [whole]
  refine ⟨held, ?_⟩
  cases sound : asked.all (holdsRecord α) with
  | true =>
      dsimp only
      rw [takeWhile_of_all sound]
      exact payloads_drop bytes limit
  | false => exact payloads_of_next?_none rfl

/-- Any log that can be read gives the records of the frames asked for, and keeps the others. -/
theorem load_reads {log : Log} (ready : log.Ready) (gives : log.disk.refusesReads = false)
    (limit : Nat) :
    let asked := (payloads log.unread).take limit
    ∃ (records : List α) (moved : Log), log.load limit = .ok (records, moved) ∧
      HeldBy (asked.takeWhile (holdsRecord α)) records ∧
      payloads moved.unread =
        if asked.all (holdsRecord α) then (payloads log.unread).drop limit else [] := by
  intro asked
  by_cases nothing : limit = 0
  · subst nothing
    exact ⟨[], log, rfl, heldBy_nil, rfl⟩
  · obtain ⟨moved, loaded, shown⟩ := (Shows.of_ready ready).loaded (α := α) gives nothing
    obtain ⟨held, left⟩ := Reading.payloads_left (α := α) limit log.unread
    exact ⟨_, moved, loaded, held, shown.unread ▸ left⟩

/-- The compaction after a load, when it fails, is as if never tried. -/
theorem compactIfGrown_of_directory {log : Log} (taken : log.disk.temporary = .directory) :
    compactIfGrown α log = log := by
  obtain ⟨error, failed, _⟩ := rewrite_of_directory taken ([] : List α) []
  rw [compactIfGrown, failed]
  split <;> rfl

/-- The file that a load leaves: without what was read, if the offset has passed the threshold and the
temporary file can be written, and as it was otherwise. -/
theorem content_loaded {log moved : Log} (ready : log.Ready) (gives : log.disk.refusesReads = false)
    {limit : Nat} (positive : limit ≠ 0)
    (sound : ((payloads log.unread).take limit).all (holdsRecord α) = true) {records : List α}
    (loaded : log.load limit = .ok (records, moved)) :
    let reached := log.offset + (log.front limit).length
    if log.threshold < reached ∧ log.disk.temporary ≠ .directory then
      moved.content = moved.unread ∧ moved.offset = 0
    else moved.content = log.content ∧ moved.offset = reached := by
  intro reached
  obtain ⟨bounded, _, _, same⟩ := load_moves ready gives positive sound
  cases loaded.symm.trans same
  obtain ⟨standing, content, offset, threshold, _⟩ := moveOver_spec ready bounded rfl
  have temporary := temporary_moveOver log (log.front limit).length
  split
  · next drops =>
      have grown : (log.moveOver _).threshold < (log.moveOver _).offset :=
        threshold.trans_lt (drops.1.trans_eq offset.symm)
      have unread := (compactIfGrown_spec (α := α) standing).2.1
      have same := moveOver_sameRefusals log (log.front limit).length
      obtain ⟨cut, start⟩ := compactIfGrown_of_lt (α := α) standing (same.reads.trans gives)
        (temporary ▸ drops.2) grown
      exact ⟨cut.trans unread.symm, start⟩
  · next keeps =>
      have kept : compactIfGrown α (log.moveOver (log.front limit).length) =
          log.moveOver (log.front limit).length := by
        -- the file stays where the compaction fails and where none is due
        by_cases taken : log.disk.temporary = .directory
        · exact compactIfGrown_of_directory (temporary.trans taken)
        · apply compactIfGrown_of_le
          have small := Nat.le_of_not_lt fun grown => keeps ⟨grown, taken⟩
          exact offset.trans_le (small.trans_eq threshold.symm)
      rw [kept]
      exact ⟨content, offset⟩

end Log

/-- A compaction that fails, whatever was in its way, changes neither the bytes of the log nor its
offset, in memory or on disk, and the log stays open.  Where the temporary file cannot be written it
does fail, none of its steps is carried out, and the whole directory is as before.  So, whatever is
stored in a log, loaded and compacted, and whichever compactions fail like this, be they asked for or
done by a load, all other calls are answered as if none had failed and those that were asked for in
vain had been left out.  A load succeeds all the same.  It gives the next records and leaves nothing of
them to be loaded again; and the first load past the threshold whose compaction succeeds drops them
from the file. -/
theorem failed_compactions_unseen (log : Log) :
    (∀ (before after : List α) (error : StorageError),
      (log.call (.compact before after)).1 = .error error →
        let left := (log.call (.compact before after)).2
        left.content = log.content ∧ left.offset = log.offset ∧
          left.disk.offset = log.disk.offset ∧ left.isOpen = log.isOpen ∧
          left.pending = log.pending) ∧
    (log.disk.temporary = .directory → ∀ before after : List α,
      (∃ error, log.compact before after = .error error ∧
        log.call (.compact before after) = (.error error, log) ∧
        (log.isOpen = true → log.disk.refusesReads = false →
          error = .io "the temporary file cannot be written")) ∧
      (log.disk.applyAll (log.compaction before after)).2 = log.disk) ∧
    (log.Ready → ∀ trials : List (Log.Trial α),
      let reached := log.afterTrials trials
      let other := log.afterTrials (trials.filterMap Log.Trial.eased)
      reached.isOpen = true ∧ other.isOpen = true ∧ reached.pending = other.pending ∧
        (∀ trial kept : Log.Trial α, trial.eased = some kept →
          (reached.attempt trial).1 = (other.attempt kept).1) ∧
        (log.disk.refusesReads = false → ∀ (limit : Nat) (barred : Bool),
          let here := reached.face barred
          let frames := payloads here.unread
          ∃ (records : List α) (moved : Log), here.load limit = .ok (records, moved) ∧
            HeldBy ((frames.take limit).takeWhile (holdsRecord α)) records ∧
            payloads moved.unread =
              (if (frames.take limit).all (holdsRecord α) then frames.drop limit else []) ∧
            (limit ≠ 0 → (frames.take limit).all (holdsRecord α) = true →
              let stop := here.offset + (here.front limit).length
              if here.threshold < stop ∧ barred = false then
                moved.content = moved.unread ∧ moved.offset = 0
              else moved.content = here.content ∧ moved.offset = stop))) := by
  refine ⟨fun before after error failed => ?_, fun taken before after => ⟨?_, ?_⟩, ?_⟩
  · obtain ⟨temporary, left⟩ := Log.call_compact_failed failed
    rw [left]
    exact ⟨rfl, rfl, rfl, rfl, rfl⟩
  · obtain ⟨error, failed, reason⟩ := Log.rewrite_of_directory taken before after
    exact ⟨error, by rw [Log.compact, failed], by rw [Log.call, failed]; rfl, reason⟩
  · rw [Log.compaction, Disk.applyAll_of_directory taken]
  · intro ready trials reached other
    have shown := (Log.Shows.of_ready ready).afterTrials trials
    have shown' := (Log.Shows.of_ready ready).afterTrials (trials.filterMap Log.Trial.eased)
    rw [Tail.after_eased] at shown'
    refine ⟨shown.ready.isOpen, shown'.ready.isOpen, ?_, ?_, ?_⟩
    · rw [shown.ready.pending_eq, shown'.ready.pending_eq, shown.unread, shown'.unread]
    · intro trial kept eased
      rw [(shown.attempt trial).1, (shown'.attempt kept).1, Tail.attempt_eased _ eased]
    · intro readable limit barred here frames
      have faced := shown.face barred
      have gives : here.disk.refusesReads = false :=
        faced.reads.trans ((Tail.refusesReads_after _ trials).trans readable)
      obtain ⟨records, moved, loaded, held, left⟩ := Log.load_reads (α := α) faced.ready gives limit
      refine ⟨records, moved, loaded, held, left, fun positive sound => ?_⟩
      have free : here.disk.temporary ≠ .directory ↔ barred = false := by
        rw [ne_eq, Log.face_temporary_iff, Bool.not_eq_true]
      exact (if_congr (and_congr_right fun _ => free) rfl rfl).mp
        (Log.content_loaded faced.ready gives positive sound loaded)

/-- An open log with nothing in it, which drops what was read past four bytes. -/
def sampleVacantLog : Log where
  disk := { files := [.empty], log := .file 0 }
  threshold := 4
  handle := some 0

/-- Two records of three are loaded, but no compaction succeeds. -/
def sampleTrials : List (Log.Trial Octet) :=
  [.store [⟨1⟩, ⟨2⟩, ⟨3⟩], .load 2 true, .compact [⟨9⟩] [] true]

/-- Once a compaction succeeds, the third record is loaded and the file is empty. -/
theorem failed_compactions_unseen_of_sampleTrials :
    let reached := sampleVacantLog.afterTrials sampleTrials
    (∃ moved, (reached.face false).load 5 = .ok ([Octet.mk 3], moved) ∧
      moved.content = moved.unread ∧ moved.offset = 0) ∧
    (reached.attempt (.load 1 true : Log.Trial Octet)).1 =
      ((sampleVacantLog.afterTrials [.store [Octet.mk 1, ⟨2⟩, ⟨3⟩], .load 2 false]).attempt
        (.load 1 false : Log.Trial Octet)).1 ∧
    reached.call (.compact [Octet.mk 9] []) =
      (.error (.io "the temporary file cannot be written"), reached) := by
  intro reached
  have ready : sampleVacantLog.Ready := ⟨⟨0, rfl, rfl, by decide⟩, by decide⟩
  obtain ⟨_, _, runs⟩ := failed_compactions_unseen (α := Octet) sampleVacantLog
  obtain ⟨isOpen, _, _, alike, loads⟩ := runs ready sampleTrials
  refine ⟨?_, alike _ _ rfl, ?_⟩
  · let here := reached.face false
    obtain ⟨records, moved, loaded, held, _, cut⟩ := loads rfl 5 false
    have frames : payloads here.unread = [[3]] := by
      have unread : here.unread = ofPayload [3] ++ [] := by decide
      rw [unread, payloads_ofPayload_append (by decide), payloads_of_next?_none rfl]
    have grown : here.threshold < here.offset + (here.front 5).length := by
      rw [Log.front, frames]
      decide
    have third : HeldBy [[3]] [Octet.mk 3] := rfl
    rw [frames] at held cut
    rw [held.unique third] at loaded
    exact ⟨moved, loaded, (if_pos ⟨grown, rfl⟩).mp (cut (by decide) rfl)⟩
  · obtain ⟨_, fails, _⟩ := failed_compactions_unseen (α := Octet) reached
    obtain ⟨⟨error, _, failed, reason⟩, _⟩ := fails rfl [⟨9⟩] []
    rw [failed, reason isOpen (by decide +kernel)]

end TrafficMeter.Spool
