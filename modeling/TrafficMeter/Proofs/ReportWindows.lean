/-
Module: TrafficMeter.Proofs.ReportWindows
Purpose: The windows of a reporter follow one another.  A reporter looks at a series again and
  again, which may hold anything each time, while the clock goes on, stands still or goes back.  Its
  window moves on only where samples were found; it reports just where bytes went over its streams;
  and its reports are numbered from zero, with exact sums over windows that do not overlap.
Main exports: Look, Desk.after, Session.counts, Desk.look_spec, Desk.Chained, Desk.Chained.after,
  report_windows_chain
-/
import Mathlib
import TrafficMeter.Proofs.ByteAccounting

namespace TrafficMeter

open Net Usage

/-! ### Looks -/

/-- A look at a store as of a moment behind the epoch.  A series is always sorted, whatever was
merged into it (`Series.merge_sorted`). -/
structure Look where
  store : Store
  sorted : store.series.Sorted
  id : Uuid
  now : Int64
  positive : 0 < now

/-- The samples that are held. -/
def Look.contents (look : Look) : List Sample :=
  look.store.series.toList

def Desk.look (desk : Desk) (look : Look) : Desk :=
  desk.tick look.store look.id look.now

def Desk.after (desk : Desk) (looks : List Look) : Desk :=
  looks.foldl Desk.look desk

/-- Whether a sample is of the address of the session and ends in a range of time. -/
def Session.counts (session : Session) (start stop : Int64) (sample : Sample) : Bool :=
  session.acceptsIp sample.ip &&
    (decide (start ≤ sample.windowEnd) && decide (sample.windowEnd < stop))

/-- Whether it is on a port of the session, too. -/
def Session.streams (session : Session) (start stop : Int64) (sample : Sample) : Bool :=
  session.counts start stop sample && session.acceptsPort sample.port

/-- The bytes of a report on any port, in one direction. -/
def Report.totalBytes (direction : Direction) (report : Report) : Nat :=
  match direction with
  | .up => report.totalUp.toNat
  | .down => report.totalDown.toNat

namespace Reporter

variable (reporter : Reporter) (look : Look)

/-- What a look finds are the contents that count in the open window. -/
theorem found_look : reporter.found look.store look.now =
    look.contents.filter (reporter.session.counts reporter.lastSampleTime look.now) := by
  rw [found_eq reporter look.sorted look.positive, List.filter_filter]
  rfl

theorem streamed_look (direction : Direction) :
    reporter.session.streamed direction (reporter.found look.store look.now) =
      tally (Sample.bytes direction)
        (reporter.session.streams reporter.lastSampleTime look.now) look.contents := by
  rw [found_look, Session.streamed, tally_filter]
  exact tally_congr _ fun sample _ => Bool.and_comm _ _

theorem totalBytes_reportOf (direction : Direction) :
    (reporter.reportOf look.store look.id look.now).totalBytes direction =
      min largestCount (tally (Sample.bytes direction)
        (reporter.session.counts reporter.lastSampleTime look.now) look.contents) := by
  have shown : (reporter.reportOf look.store look.id look.now).totalBytes direction =
      (Totals.of (reporter.found look.store look.now)).bytes direction := by
    cases direction <;> rfl
  rw [shown, Totals.bytes_of, found_look, tally_filter]
  simp only [Bool.true_and]

/-- Something is found exactly if some sample of the contents counts. -/
theorem found_look_ne_nil_iff : reporter.found look.store look.now ≠ [] ↔
    look.contents.any (reporter.session.counts reporter.lastSampleTime look.now) = true := by
  rw [found_look, List.any_eq_true, Ne, List.filter_eq_nil_iff]
  simp only [not_forall, not_not, exists_prop]

/-- Bytes go over streams just where a sample on a stream has some. -/
theorem streamed_look_eq_zero_iff :
    (∀ direction, reporter.session.streamed direction (reporter.found look.store look.now) = 0) ↔
      ¬ ∃ sample ∈ look.contents,
        reporter.session.streams reporter.lastSampleTime look.now sample = true ∧
          ∃ direction, sample.bytes direction ≠ 0 := by
  simp only [streamed_look, tally_eq_zero_iff]
  constructor
  · rintro silent ⟨sample, member, streams, direction, some⟩
    exact some (silent direction sample member streams)
  · intro none direction sample member streams
    by_contra some
    exact none ⟨sample, member, streams, direction, some⟩

/-- Where samples are found the clock is ahead of the window. -/
theorem ahead_of_found {reporter : Reporter} {look : Look}
    (something : reporter.found look.store look.now ≠ []) : reporter.lastSampleTime < look.now := by
  obtain ⟨sample, member⟩ := List.exists_mem_of_ne_nil _ something
  rw [found_look, List.mem_filter, Session.counts] at member
  simp only [Bool.and_eq_true, decide_eq_true_iff] at member
  exact Int64.lt_of_le_of_lt member.2.2.1 member.2.2.2

end Reporter

/-! ### Look after look -/

/-- The windows of the reports follow one another up to the window of the reporter, and they are
numbered from zero. -/
structure Desk.Chained (desk : Desk) : Prop where
  ordered : desk.reports.Pairwise fun earlier later => earlier.windowEnd ≤ later.windowStart
  ended : ∀ report ∈ desk.reports, report.windowEnd ≤ desk.reporter.lastSampleTime
  numbered : desk.reports.map Report.sequence = (List.range desk.reports.length).map UInt32.ofNat
  next : desk.reporter.sequence = UInt32.ofNat desk.reports.length

namespace Desk

variable {desk : Desk}

/-- A look is a tick of the reporter, whose report, if there is one, joins the others. -/
theorem look_eq (desk : Desk) (look : Look) :
    desk.look look =
      { reporter := (desk.reporter.tick look.store look.id look.now).2
        reports := desk.reports ++ (desk.reporter.tick look.store look.id look.now).1.toList } :=
  rfl

/-- A desk whose window has moved on is chained as it was. -/
theorem Chained.move (chained : desk.Chained) {now : Int64}
    (ahead : desk.reporter.lastSampleTime ≤ now) :
    Chained { desk with reporter := { desk.reporter with lastSampleTime := now } } :=
  ⟨chained.ordered, fun report member => Int64.le_trans (chained.ended report member) ahead,
    chained.numbered, chained.next⟩

/-- A report of the window up to now goes behind the others. -/
theorem Chained.report (chained : desk.Chained) {report : Report} {now : Int64}
    (start : report.windowStart = desk.reporter.lastSampleTime) (stop : report.windowEnd = now)
    (number : report.sequence = desk.reporter.sequence)
    (ahead : desk.reporter.lastSampleTime ≤ now) :
    Chained
      { reporter :=
          { desk.reporter with lastSampleTime := now, sequence := desk.reporter.sequence + 1 }
        reports := desk.reports ++ [report] } := by
  constructor
  · refine List.pairwise_append.mpr ⟨chained.ordered, List.pairwise_singleton _ _, ?_⟩
    intro earlier member later same
    rw [List.mem_singleton.mp same, start]
    exact chained.ended earlier member
  · intro other member
    rcases List.mem_append.mp member with old | new
    · exact Int64.le_trans (chained.ended other old) ahead
    · rw [List.mem_singleton.mp new, stop]
      exact Int64.le_refl _
  · rw [List.map_append, List.map_singleton, List.length_append, List.length_singleton,
      List.range_succ, List.map_append, List.map_singleton, chained.numbered, number, chained.next]
  · show desk.reporter.sequence + 1 = _
    rw [chained.next, List.length_append, List.length_singleton]
    exact (UInt32.ofNat_add _ 1).symm

/-- A look keeps the windows chained, whether it reports or not. -/
theorem Chained.look (chained : desk.Chained) (look : Look) : (desk.look look).Chained := by
  rw [look_eq]
  rcases desk.reporter.tick_cases look.store look.id look.now with
    ⟨_, same⟩ | ⟨something, _, moved⟩ | ⟨something, _, reported⟩
  · rw [same, Option.toList_none, List.append_nil]
    exact chained
  · rw [moved, Option.toList_none, List.append_nil]
    exact chained.move (Int64.le_of_lt (Reporter.ahead_of_found something))
  · rw [reported, Option.toList_some]
    exact chained.report rfl rfl rfl (Int64.le_of_lt (Reporter.ahead_of_found something))

/-- The windows are chained after any looks. -/
theorem Chained.after (chained : desk.Chained) (looks : List Look) :
    (desk.after looks).Chained := by
  induction looks generalizing desk with
  | nil => exact chained
  | cons look later ih => exact ih (chained.look look)

theorem chained_create (session : Session) (store interval : Nat) :
    Chained { reporter := .create session store interval } :=
  ⟨List.Pairwise.nil, List.forall_mem_nil _, rfl, rfl⟩

theorem session_look (desk : Desk) (look : Look) :
    (desk.look look).reporter.session = desk.reporter.session := by
  rw [look_eq]
  rcases desk.reporter.tick_cases look.store look.id look.now with
    ⟨_, same⟩ | ⟨_, _, moved⟩ | ⟨_, _, reported⟩
  · rw [same]
  · rw [moved]
  · rw [reported]

theorem session_after (desk : Desk) (looks : List Look) :
    (desk.after looks).reporter.session = desk.reporter.session := by
  induction looks generalizing desk with
  | nil => rfl
  | cons look later ih => exact (ih (desk.look look)).trans (desk.session_look look)

/-! ### What a look does -/

/-- A look moves the window on where it finds samples, and reports the bytes in it where there are
any on streams. -/
theorem look_spec (desk : Desk) (look : Look) :
    let session := desk.reporter.session
    let start := desk.reporter.lastSampleTime
    let next := desk.look look
    next.reporter.lastSampleTime =
        (if look.contents.any (session.counts start look.now) then look.now else start) ∧
      start ≤ next.reporter.lastSampleTime ∧
      ∃ made : Option Report, next.reports = desk.reports ++ made.toList ∧
        (made.isSome = true ↔ ∃ sample ∈ look.contents,
          session.streams start look.now sample = true ∧
            ∃ direction, sample.bytes direction ≠ 0) ∧
        ∀ report, made = some report →
          report = desk.reporter.reportOf look.store look.id look.now ∧ start < look.now := by
  intro session start next
  have found := desk.reporter.found_look_ne_nil_iff look
  have bytes := desk.reporter.streamed_look_eq_zero_iff look
  have looked : next = _ := desk.look_eq look
  -- nothing in the window, nothing on streams, or a report
  rcases desk.reporter.tick_cases look.store look.id look.now with
    ⟨nothing, same⟩ | ⟨something, silent, moved⟩ | ⟨something, loud, reported⟩
  · rw [same] at looked
    rw [if_neg fun any => found.mpr any nothing, looked]
    refine ⟨rfl, Int64.le_refl _, none, rfl, iff_of_false Bool.false_ne_true ?_, nofun⟩
    refine bytes.mp fun direction => ?_
    rw [nothing]
    rfl
  · have ahead := Reporter.ahead_of_found something
    rw [moved] at looked
    rw [if_pos (found.mp something), looked]
    exact ⟨rfl, Int64.le_of_lt ahead, none, rfl,
      iff_of_false Bool.false_ne_true (bytes.mp silent), nofun⟩
  · have ahead := Reporter.ahead_of_found something
    rw [reported] at looked
    rw [if_pos (found.mp something), looked]
    refine ⟨rfl, Int64.le_of_lt ahead, some _, rfl,
      iff_of_true rfl (not_not.mp (mt bytes.mpr loud)), ?_⟩
    rintro report ⟨⟩
    exact ⟨rfl, ahead⟩

end Desk

/-- The windows of a reporter follow one another, whatever its store holds at each look and
whichever way the clock goes. -/
theorem report_windows_chain (session : Session) (store interval : Nat) (looks : List Look) :
    let reached := Desk.after { reporter := .create session store interval } looks
    let start := reached.reporter.lastSampleTime
    (reached.reports.Pairwise fun earlier later => earlier.windowEnd ≤ later.windowStart) ∧
      (reached.reports.length ≤ 4294967296 →
        reached.reports.map (fun report => report.sequence.toNat) =
          List.range reached.reports.length) ∧
      ∀ look : Look,
        let next := reached.look look
        start ≤ next.reporter.lastSampleTime ∧
          next.reporter.lastSampleTime =
            (if look.contents.any (session.counts start look.now) then look.now else start) ∧
          ∃ made : Option Report, next.reports = reached.reports ++ made.toList ∧
            (made.isSome = true ↔ ∃ sample ∈ look.contents,
              session.streams start look.now sample = true ∧
                ∃ direction, sample.bytes direction ≠ 0) ∧
            ∀ report, made = some report →
              report.windowStart = start ∧ report.windowEnd = look.now ∧ start < look.now ∧
                ∀ direction,
                  report.totalBytes direction = min largestCount (tally (Sample.bytes direction)
                    (session.counts start look.now) look.contents) ∧
                  report.streamBytes direction = min largestCount (tally (Sample.bytes direction)
                    (session.streams start look.now) look.contents) ∧
                  report.streamBytes direction ≤ report.totalBytes direction := by
  intro reached start
  have chained : reached.Chained := (Desk.chained_create session store interval).after looks
  have same : reached.reporter.session = session := Desk.session_after _ looks
  refine ⟨chained.ordered, fun few => ?_, fun look => ?_⟩
  · have numbered := congrArg (List.map UInt32.toNat) chained.numbered
    rw [List.map_map, List.map_map] at numbered
    refine numbered.trans ((List.map_congr_left fun number member => ?_).trans (List.map_id _))
    have small : number < UInt32.size := Nat.lt_of_lt_of_le (List.mem_range.mp member) few
    exact UInt32.toNat_ofNat_of_lt' small
  · obtain ⟨moved, ahead, made, reports, made_iff, report_eq⟩ := reached.look_spec look
    rw [same] at moved made_iff
    refine ⟨ahead, moved, made, reports, made_iff, fun report is => ?_⟩
    obtain ⟨rfl, after⟩ := report_eq report is
    refine ⟨rfl, rfl, after, fun direction => ?_⟩
    have total := reached.reporter.totalBytes_reportOf look direction
    have stream := reached.reporter.streamBytes_reportOf look.store look.id look.now direction
    rw [reached.reporter.streamed_look look] at stream
    rw [same] at total stream
    refine ⟨total, stream, ?_⟩
    have fewer : tally (Sample.bytes direction) (session.streams start look.now) look.contents ≤
        tally (Sample.bytes direction) (session.counts start look.now) look.contents :=
      tally_split (Sample.bytes direction) (session.counts start look.now)
        (fun sample => session.acceptsPort sample.port) look.contents ▸ Nat.le_add_right _ _
    rw [total, stream]
    exact Nat.le_min.mpr
      ⟨Nat.min_le_left _ _, Nat.le_trans (Nat.min_le_right _ _) fewer⟩

/-- A sample of one endpoint. -/
def sampleOf (port : UInt16) (up : UInt64) (windowEnd : Int64) : Sample where
  hardware := .zero
  ip := .v4 (Net.IpAddress.quad 192 0 2 1)
  port
  up
  down := 0
  windowStart := 0
  windowEnd

/-- A look at a store that holds these samples. -/
def Look.at (samples : List Sample) (now : Int64)
    (sorted : ({ samples := samples.toArray } : Series).Sorted) (positive : 0 < now) : Look where
  store := { Store.create [] {} with series := { samples := samples.toArray } }
  sorted
  id := default
  now
  positive

/-- A report, a look after the clock went back, one that finds nothing on the port, and a report. -/
def sampleLooks : List Look :=
  [.at [sampleOf 80 9 9, sampleOf 81 3 12, sampleOf 80 5 15] 20 (by decide) (by decide),
    .at [sampleOf 80 5 15] 12 (by decide) (by decide),
    .at [sampleOf 81 7 25] 30 (by decide) (by decide),
    .at [sampleOf 80 1 30, sampleOf 80 8 35] 40 (by decide) (by decide)]

theorem report_windows_chain_of_sampleLooks :
    let reached := Desk.after { reporter := .create sampleSession 0 10 } sampleLooks
    reached.reports.map (fun report => report.sequence.toNat) = [0, 1] ∧
      ∃ report, (reached.look (.at [sampleOf 80 2 40, sampleOf 81 4 41] 50 (by decide)
          (by decide))).reports = reached.reports ++ [report] ∧
        report.windowStart = 40 ∧ report.windowEnd = 50 ∧ report.totalBytes .up = 6 ∧
          report.streamBytes .up = 2 := by
  intro reached
  have start : (Desk.after { reporter := .create sampleSession 0 10 }
      sampleLooks).reporter.lastSampleTime = 40 := by decide +kernel
  have two : reached.reports.length = 2 := by decide +kernel
  obtain ⟨_, numbered, looked⟩ := report_windows_chain sampleSession 0 10 sampleLooks
  simp only [start] at looked
  refine ⟨?_, ?_⟩
  · rw [numbered (two ▸ by decide)]
    exact congrArg List.range two
  · let look : Look := .at [sampleOf 80 2 40, sampleOf 81 4 41] 50 (by decide) (by decide)
    obtain ⟨_, _, made, reports, made_iff, report_eq⟩ := looked look
    have streams : ∃ sample ∈ look.contents, sampleSession.streams 40 look.now sample = true ∧
        ∃ direction, sample.bytes direction ≠ 0 :=
      ⟨sampleOf 80 2 40, by decide, by decide, .up, by decide⟩
    obtain ⟨report, is⟩ := Option.isSome_iff_exists.mp (made_iff.mpr streams)
    obtain ⟨begins, ends, _, bytes⟩ := report_eq report is
    obtain ⟨total, stream, _⟩ := bytes .up
    refine ⟨report, ?_, begins, ends, total.trans ?_, stream.trans ?_⟩
    · rw [reports, is]
      rfl
    · decide +kernel
    · decide +kernel

end TrafficMeter
