/-
Module: TrafficMeter.Proofs.ByteAccounting
Purpose: No byte is missed or reported twice.  While no sample leaves the series before its reporter
  has looked at a time after its window, the reports of a reporter show just the bytes on streams of
  its session that were exported from the start of the session on and before its last look.
Main exports: OnTime, Kept, WindowsExact, Watch, Watch.tick, Watch.after,
  reports_account_for_every_byte
-/
import TrafficMeter.Proofs.MeteringBooks

namespace TrafficMeter

open Net Usage

variable {n : Nat}

/-! ### One look of a reporter -/

/-- The bytes of a report on stream ports, in one direction. -/
def Report.streamBytes (direction : Direction) (report : Report) : Nat :=
  match direction with
  | .up => report.streamUp.toNat
  | .down => report.streamDown.toNat

/-- The bytes that a reporter has reported on stream ports, in one direction. -/
def Desk.reported (direction : Direction) (desk : Desk) : Nat :=
  (desk.reports.map (Report.streamBytes direction)).sum

/-- The samples that a reporter finds when it looks. -/
def Reporter.found (reporter : Reporter) (store : Store) (now : Int64) : List Sample :=
  store.query (fun sample => reporter.session.acceptsIp sample.ip) reporter.lastSampleTime now

/-- The bytes of samples on the stream ports of a session. -/
def Session.streamed (session : Session) (direction : Direction) (samples : List Sample) : Nat :=
  tally (Sample.bytes direction) (fun sample => session.acceptsPort sample.port) samples

/-- A usage's stream total is the exact sum over the streamed samples, saturated once. -/
theorem Session.streamed_eq (session : Session) (direction : Direction) (samples : List Sample) :
    (Reporter.usageOf session samples).stream.bytes direction =
      min largestCount (session.streamed direction samples) := by
  rw [Reporter.usageOf, Totals.bytes_of, tally_filter]
  rfl

theorem Session.streamed_of_silent {session : Session} {samples : List Sample}
    (silent : ((Reporter.usageOf session samples).total.isSilent ||
      (Reporter.usageOf session samples).stream.isSilent) = true) (direction : Direction) :
    session.streamed direction samples = 0 := by
  rcases Bool.or_eq_true_iff.mp silent with total | stream
  · have none := Totals.isSilent_iff.mp total direction
    have part := tally_split (Sample.bytes direction) (fun _ => true)
      (fun sample => session.acceptsPort sample.port) samples
    rw [Reporter.usageOf, Totals.bytes_of, largestCount] at none
    simp only [Bool.true_and] at part
    rw [Session.streamed]
    omega
  · have none := Totals.isSilent_iff.mp stream direction
    rw [session.streamed_eq, largestCount] at none
    omega

/-- The test a tick makes before it reports finds silence exactly where no byte was streamed in
either direction. -/
theorem Session.silent_iff {session : Session} {samples : List Sample} :
    ((Reporter.usageOf session samples).total.isSilent ||
        (Reporter.usageOf session samples).stream.isSilent) = true ↔
      ∀ direction, session.streamed direction samples = 0 := by
  constructor
  · exact Session.streamed_of_silent
  · intro nothing
    refine Bool.or_eq_true_iff.mpr (.inr (Totals.isSilent_iff.mpr fun direction => ?_))
    rw [session.streamed_eq, nothing, Nat.min_zero]

/-- The report that a reporter makes of the samples that it finds. -/
def Reporter.reportOf (reporter : Reporter) (store : Store) (id : Uuid) (now : Int64) : Report :=
  .create id reporter.session reporter.lastSampleTime now
    (usageOf reporter.session (reporter.found store now)) reporter.sequence

/-- A look finds nothing and changes nothing, or finds samples without bytes on stream ports and moves
the window on, or reports besides. -/
theorem Reporter.tick_cases (reporter : Reporter) (store : Store) (id : Uuid) (now : Int64) :
    (reporter.found store now = [] ∧ reporter.tick store id now = (none, reporter)) ∨
      (reporter.found store now ≠ [] ∧
        (∀ direction, reporter.session.streamed direction (reporter.found store now) = 0) ∧
        reporter.tick store id now = (none, { reporter with lastSampleTime := now })) ∨
      (reporter.found store now ≠ [] ∧
        (¬ ∀ direction, reporter.session.streamed direction (reporter.found store now) = 0) ∧
        reporter.tick store id now =
          (some (reporter.reportOf store id now),
            { reporter with lastSampleTime := now, sequence := reporter.sequence + 1 })) := by
  by_cases nothing : reporter.found store now = []
  · refine .inl ⟨nothing, ?_⟩
    rw [tick]
    exact if_pos (List.isEmpty_iff.mpr nothing)
  · let usage := usageOf reporter.session (reporter.found store now)
    have looked : reporter.tick store id now =
        if usage.total.isSilent || usage.stream.isSilent then
          (none, { reporter with lastSampleTime := now })
        else (some (reporter.reportOf store id now),
          { reporter with lastSampleTime := now, sequence := reporter.sequence + 1 }) := by
      rw [tick]
      exact if_neg fun empty => nothing (List.isEmpty_iff.mp empty)
    by_cases silent : (usage.total.isSilent || usage.stream.isSilent) = true
    · rw [if_pos silent] at looked
      exact .inr (.inl ⟨nothing, Session.silent_iff.mp silent, looked⟩)
    · rw [if_neg silent] at looked
      exact .inr (.inr ⟨nothing, fun none => silent (Session.silent_iff.mpr none), looked⟩)

/-- The stream total a report carries, in terms of the samples the reporter found. -/
theorem Reporter.streamBytes_reportOf (reporter : Reporter) (store : Store) (id : Uuid)
    (now : Int64) (direction : Direction) :
    (reporter.reportOf store id now).streamBytes direction =
      min largestCount (reporter.session.streamed direction (reporter.found store now)) := by
  rw [← Session.streamed_eq]
  cases direction <;> rfl

/-- A tick that finds no sample leaves reporter and reports alone: the window stays open. -/
theorem Desk.tick_of_nothing {desk : Desk} {store : Store} {now : Int64}
    (nothing : desk.reporter.found store now = []) (id : Uuid) : desk.tick store id now = desk := by
  rcases desk.reporter.tick_cases store id now with ⟨_, same⟩ | ⟨something, _⟩ | ⟨something, _⟩
  · rw [Desk.tick, same, Option.toList_none, List.append_nil]
  · exact absurd nothing something
  · exact absurd nothing something

/-- A look that finds samples moves the window on, and reports their bytes on stream ports. -/
theorem Desk.tick_of_samples {desk : Desk} {store : Store} {now : Int64}
    (something : desk.reporter.found store now ≠ []) (id : Uuid) :
    (desk.tick store id now).reporter.session = desk.reporter.session ∧
      (desk.tick store id now).reporter.lastSampleTime = now ∧
      ∀ direction,
        desk.reporter.session.streamed direction (desk.reporter.found store now) ≤ largestCount →
        (desk.tick store id now).reported direction = desk.reported direction +
          desk.reporter.session.streamed direction (desk.reporter.found store now) := by
  rcases desk.reporter.tick_cases store id now with
    ⟨nothing, _⟩ | ⟨_, silent, moved⟩ | ⟨_, _, reported⟩
  · exact absurd nothing something
  · rw [Desk.tick, moved]
    refine ⟨rfl, rfl, fun direction _ => ?_⟩
    rw [silent, Desk.reported, Option.toList_none, List.append_nil]
    rfl
  · rw [Desk.tick, reported]
    refine ⟨rfl, rfl, fun direction room => ?_⟩
    rw [Desk.reported, Option.toList_some, List.map_append, List.sum_append, List.map_singleton,
      List.sum_singleton, Reporter.streamBytes_reportOf, Nat.min_eq_right room]
    rfl

/-- The samples that a look finds are those of the series in its window with the address of the
session. -/
theorem Reporter.found_eq (reporter : Reporter) {store : Store} (sorted : store.series.Sorted)
    {now : Int64} (positive : 0 < now) :
    reporter.found store now =
      (store.series.toList.filter fun sample =>
        decide (reporter.lastSampleTime ≤ sample.windowEnd) && decide (sample.windowEnd < now)).filter
        fun sample => reporter.session.acceptsIp sample.ip := by
  rw [found, Store.query, Series.search_eq sorted]
  congr 2
  funext sample
  rw [decide_eq_true positive, Bool.not_true, Bool.false_or, ← decide_not]
  simp only [Int64.not_lt]

/-! ### The watch of one reporter -/

/-- Whether traffic of an endpoint that is exported at a time is on a stream of the session, and
within a range of time. -/
def Session.covers (session : Session) (start stop : Int64) (ip : IpAddress) (port : UInt16)
    (time : Int64) : Bool :=
  session.acceptsIp ip && session.acceptsPort port && (decide (start ≤ time) && decide (time < stop))

/-- The time of a look, if it is a look of the given reporter. -/
def Happening.tickOf? (k : Nat) : Happening n → Option Int64
  | .add _ => none
  | .harvest _ => none
  | .tick desk _ now => if desk = k then some now else none

def ticksOf (k : Nat) (run : List (Happening n)) : List Int64 :=
  run.filterMap (Happening.tickOf? k)

theorem ticksOf_concat (k : Nat) (run : List (Happening n)) (last : Happening n) :
    ticksOf k (run ++ [last]) = ticksOf k run ++ (last.tickOf? k).toList := by
  rw [ticksOf, List.filterMap_append]
  cases found : last.tickOf? k with
  | none =>
      rw [List.filterMap_cons_none found]
      rfl
  | some time =>
      rw [List.filterMap_cons_some found]
      rfl

/-- The clock stands after the epoch, and never goes back. -/
structure OnTime (run : List (Happening n)) : Prop where
  ordered : (run.filterMap Happening.time?).Pairwise (· ≤ ·)
  positive : ∀ time ∈ run.filterMap Happening.time?, 0 < time

/-- The samples that have left the series lie before a time at which a reporter looked. -/
def Metering.LossesSeen (metering : Metering) (ticks : List Int64) : Prop :=
  ∀ sample ∈ metering.harvested.diff metering.store.series.toList,
    ∃ tick ∈ ticks, sample.windowEnd < tick

/-- Every sample stays in the store until the reporter looks at a time after its window. -/
def Kept (start : Metering) (k : Nat) (run : List (Happening n)) : Prop :=
  ∀ earlier, earlier <+: run → (start.after earlier).LossesSeen (ticksOf k earlier)

/-- What the reporter finds on stream ports is never more than the largest count. -/
def WindowsExact (start : Metering) (k : Nat) (run : List (Happening n)) : Prop :=
  ∀ earlier id now, earlier ++ [.tick k id now] <+: run → ∀ desk,
    (start.after earlier).desks[k]? = some desk → ∀ direction,
    desk.reporter.session.streamed direction
      (desk.reporter.found (start.after earlier).store now) ≤ largestCount

theorem time_of_mem_ticksOf {k : Nat} {run : List (Happening n)} {tick : Int64}
    (member : tick ∈ ticksOf k run) : tick ∈ run.filterMap Happening.time? := by
  obtain ⟨happening, here, found⟩ := List.mem_filterMap.mp member
  refine List.mem_filterMap.mpr ⟨happening, here, ?_⟩
  cases happening with
  | add addition => cases found
  | harvest now => cases found
  | tick desk id now =>
      rw [Happening.tickOf?] at found
      by_cases same : desk = k
      · rwa [if_pos same] at found
      · rw [if_neg same] at found
        cases found

/-- In a run on time the last happening comes at a positive time and no earlier than any tick. -/
theorem OnTime.last {run earlier : List (Happening n)} {last : Happening n} (onTime : OnTime run)
    (front : earlier ++ [last] <+: run) {now : Int64} (time : last.time? = some now) :
    0 < now ∧ ∀ k, ∀ tick ∈ ticksOf k earlier, tick ≤ now := by
  have times := front.filterMap Happening.time?
  rw [List.filterMap_append, List.filterMap_cons, time] at times
  have ordered := onTime.ordered.sublist times.sublist
  refine ⟨onTime.positive now (times.subset (by simp)), fun k tick member => ?_⟩
  exact (List.pairwise_append.mp ordered).2.2 tick (time_of_mem_ticksOf member) now
    List.mem_cons_self

/-- A store with room for all samples that are ever harvested keeps them. -/
theorem Kept.of_room {first : Metering} (stock : Stock first)
    (full : first.store.series.toList.Perm first.harvested) (k : Nat) {run : List (Happening n)}
    (room : (first.after run).harvested.length ≤ first.store.series.capacity) :
    Kept first k run := by
  intro earlier front sample lost
  have held := (first.holds_harvested full room front).1.length_eq
  have whole := (stock.after earlier).perm.length_eq
  rw [List.length_append, held] at whole
  have none : (first.after earlier).harvested.diff (first.after earlier).store.series.toList = [] :=
    List.eq_nil_of_length_eq_zero (by omega)
  rw [none] at lost
  cases lost

/-- Where all the bytes of the run fit a counter, so do those of each window. -/
theorem WindowsExact.of_bytesAdded {first : Metering} (stock : Stock first)
    (books : Books first (Docket.of ([] : List (Happening n)))) (k : Nat)
    {run : List (Happening n)} (small : bytesAdded run ≤ largestCount) :
    WindowsExact first k run := by
  intro earlier id now front desk _ direction
  have before : earlier <+: run := (List.prefix_append _ _).trans front
  have exported := (books.after (.of_bytesAdded small) before).harvested direction
    fun _ _ _ => true
  have found : (desk.reporter.found (first.after earlier).store now).Subperm
      (first.after earlier).harvested :=
    (List.filter_sublist.trans (Series.search_sublist _ _ _)).subperm.trans
      (stock.after earlier).drawn
  calc desk.reporter.session.streamed direction _
      ≤ tally (Sample.bytes direction) (fun _ => true) (first.after earlier).harvested :=
        tally_le _ _ found
    _ = _ := exported
    _ ≤ bytesAdded earlier :=
        tally_exported_le (fun addition => addition.counts direction fun _ _ => true) earlier
    _ ≤ bytesAdded run := bytesAdded_mono before
    _ ≤ largestCount := small

/-- The window of a reporter begins at the start of its session, or where a look of it ended the
last one; what its looks have passed by it has passed for good, and what lies before its window it
has reported. -/
structure Watch (session : Session) (start : Int64) (harvested : List Sample) (desk : Desk)
    (ticks : List Int64) : Prop where
  session_eq : desk.reporter.session = session
  begun : start ≤ desk.reporter.lastSampleTime
  reached : desk.reporter.lastSampleTime = start ∨ desk.reporter.lastSampleTime ∈ ticks
  passed : ∀ tick ∈ ticks, ∀ sample ∈ harvested, session.acceptsIp sample.ip = true →
    desk.reporter.lastSampleTime ≤ sample.windowEnd → tick ≤ sample.windowEnd
  reported : ∀ direction, desk.reported direction =
    tally (Sample.bytes direction)
      (fun sample => session.covers start desk.reporter.lastSampleTime sample.ip sample.port
        sample.windowEnd) harvested

theorem windowEnd_of_mem_batch {store : Store} {now : Int64} {sample : Sample}
    (member : sample ∈ store.batch now) : sample.windowEnd = now := by
  obtain ⟨collector, _, exported⟩ := List.mem_flatMap.mp member
  obtain ⟨counter, _, rfl⟩ := List.mem_map.mp exported
  rfl

namespace Watch

variable {session : Session} {start : Int64} {metering : Metering} {desk : Desk}
  {ticks : List Int64}

/-- Samples harvested after all looks lie behind the window. -/
theorem harvest (watch : Watch session start metering.harvested desk ticks) {now : Int64}
    (later : ∀ tick ∈ ticks, tick ≤ now) :
    Watch session start (metering.harvested ++ metering.store.batch now) desk ticks := by
  refine ⟨watch.session_eq, watch.begun, watch.reached, ?_, ?_⟩
  · intro tick looked sample member accepted within
    rcases List.mem_append.mp member with old | new
    · exact watch.passed tick looked sample old accepted within
    · rw [windowEnd_of_mem_batch new]
      exact later tick looked
  · intro direction
    have outside : ∀ sample ∈ metering.store.batch now,
        session.covers start desk.reporter.lastSampleTime sample.ip sample.port sample.windowEnd =
          false := by
      intro sample member
      have early : ¬ (start ≤ now ∧ now < desk.reporter.lastSampleTime) := by
        rintro ⟨after, before⟩
        rcases watch.reached with first | looked
        · rw [first] at before
          exact Int64.lt_irrefl (Int64.lt_of_le_of_lt after before)
        · exact Int64.lt_irrefl (Int64.lt_of_le_of_lt (later _ looked) before)
      rw [windowEnd_of_mem_batch member, Session.covers, ← Bool.decide_and, decide_eq_false early,
        Bool.and_false]
    rw [watch.reported, tally_append, tally_eq_zero _ outside, Nat.add_zero]

/-- A sample evicted from the store, if the session accepts it, ended before the window now open
began: some earlier tick has counted it. -/
theorem not_lost (watch : Watch session start metering.harvested desk ticks)
    (kept : metering.LossesSeen ticks) {sample : Sample}
    (lost : sample ∈ metering.harvested.diff metering.store.series.toList)
    (accepted : session.acceptsIp sample.ip = true) :
    ¬ desk.reporter.lastSampleTime ≤ sample.windowEnd := by
  intro within
  obtain ⟨tick, looked, behind⟩ := kept sample lost
  have ahead := watch.passed tick looked sample ((List.diff_subset _ _) lost) accepted within
  exact Int64.lt_irrefl (Int64.lt_of_le_of_lt ahead behind)

/-- What the reporter finds in the store is all that was harvested in its open window, evictions
notwithstanding. -/
theorem streamed_found (watch : Watch session start metering.harvested desk ticks)
    (stock : Stock metering) (kept : metering.LossesSeen ticks) {now : Int64} (positive : 0 < now)
    (direction : Direction) :
    session.streamed direction (desk.reporter.found metering.store now) =
      tally (Sample.bytes direction) (fun sample => session.covers desk.reporter.lastSampleTime now
        sample.ip sample.port sample.windowEnd) metering.harvested := by
  have lost : tally (Sample.bytes direction)
      (fun sample => session.covers desk.reporter.lastSampleTime now sample.ip sample.port
        sample.windowEnd) (metering.harvested.diff metering.store.series.toList) = 0 := by
    apply tally_eq_zero
    intro sample member
    rw [← Bool.not_eq_true]
    intro covered
    obtain ⟨stream, within, _⟩ : (session.acceptsIp sample.ip = true ∧
        session.acceptsPort sample.port = true) ∧
        desk.reporter.lastSampleTime ≤ sample.windowEnd ∧ sample.windowEnd < now := by
      simpa [Session.covers] using covered
    exact watch.not_lost kept member stream.1 within
  rw [← tally_perm _ _ stock.perm, tally_append, lost, Nat.add_zero, Session.streamed,
    Reporter.found_eq _ stock.sorted positive, tally_filter, tally_filter, watch.session_eq]
  apply tally_congr
  intro sample _
  rw [Session.covers, Bool.and_comm (session.acceptsPort _)]

/-- Two ranges of time, one after the other, cover what the range of both covers. -/
theorem tally_covers_append {middle stop : Int64} (first : start ≤ middle) (second : middle ≤ stop)
    (direction : Direction) (samples : List Sample) :
    tally (Sample.bytes direction) (fun sample => session.covers start stop sample.ip sample.port
        sample.windowEnd) samples =
      tally (Sample.bytes direction) (fun sample => session.covers start middle sample.ip sample.port
        sample.windowEnd) samples +
      tally (Sample.bytes direction) (fun sample => session.covers middle stop sample.ip sample.port
        sample.windowEnd) samples := by
  rw [tally_split _ _ fun sample => decide (sample.windowEnd < middle)]
  congr 1
  · apply tally_congr
    intro sample _
    rw [Bool.eq_iff_iff]
    simp only [Session.covers, Bool.and_eq_true, decide_eq_true_iff]
    constructor
    · rintro ⟨⟨stream, after, _⟩, before⟩
      exact ⟨stream, after, before⟩
    · rintro ⟨stream, after, before⟩
      exact ⟨⟨stream, after, Int64.lt_of_lt_of_le before second⟩, before⟩
  · apply tally_congr
    intro sample _
    rw [Bool.eq_iff_iff]
    simp only [Session.covers, Bool.and_eq_true, Bool.not_eq_true', decide_eq_true_iff,
      decide_eq_false_iff_not, Int64.not_lt]
    constructor
    · rintro ⟨⟨stream, _, before⟩, after⟩
      exact ⟨stream, after, before⟩
    · rintro ⟨stream, after, before⟩
      exact ⟨⟨stream, Int64.le_trans first after, before⟩, after⟩

/-- Which samples a reporter finds: those in the store that ended in its open window at an accepted
address. -/
theorem mem_found (watch : Watch session start metering.harvested desk ticks)
    (stock : Stock metering) {now : Int64} (positive : 0 < now) {sample : Sample} :
    sample ∈ desk.reporter.found metering.store now ↔
      (sample ∈ metering.store.series.toList ∧ desk.reporter.lastSampleTime ≤ sample.windowEnd ∧
        sample.windowEnd < now) ∧ session.acceptsIp sample.ip = true := by
  rw [Reporter.found_eq _ stock.sorted positive, List.mem_filter, List.mem_filter, watch.session_eq,
    Bool.and_eq_true, decide_eq_true_iff, decide_eq_true_iff]

/-- After a look that finds nothing, there is nothing before its time to be found later. -/
theorem tick_of_nothing (watch : Watch session start metering.harvested desk ticks)
    (stock : Stock metering)
    (kept : metering.LossesSeen ticks) {now : Int64} (positive : 0 < now)
    (nothing : desk.reporter.found metering.store now = []) :
    Watch session start metering.harvested desk (ticks ++ [now]) := by
  refine ⟨watch.session_eq, watch.begun, watch.reached.imp_right (List.mem_append_left _), ?_,
    watch.reported⟩
  intro tick looked sample member accepted within
  rcases List.mem_append.mp looked with old | new
  · exact watch.passed tick old sample member accepted within
  · cases List.mem_singleton.mp new
    rw [← Int64.not_lt]
    intro before
    -- a sample in the window is in the series, where the look would have found it
    by_cases held : sample ∈ metering.store.series.toList
    · have found := (watch.mem_found stock positive).mpr ⟨⟨held, within, before⟩, accepted⟩
      rw [nothing] at found
      cases found
    · exact watch.not_lost kept (List.mem_diff_of_mem member held) accepted within

/-- A look that finds samples reports all that was harvested in its window, and ends the window. -/
theorem tick_of_samples (watch : Watch session start metering.harvested desk ticks)
    (stock : Stock metering)
    (kept : metering.LossesSeen ticks) {now : Int64} (positive : 0 < now)
    (later : ∀ tick ∈ ticks, tick ≤ now) (id : Uuid)
    (room : ∀ direction,
      session.streamed direction (desk.reporter.found metering.store now) ≤ largestCount)
    (something : desk.reporter.found metering.store now ≠ []) :
    Watch session start metering.harvested (desk.tick metering.store id now) (ticks ++ [now]) := by
  obtain ⟨sample, member⟩ := List.exists_mem_of_ne_nil _ something
  obtain ⟨⟨_, within, before⟩, _⟩ := (watch.mem_found stock positive).mp member
  have ahead : desk.reporter.lastSampleTime ≤ now :=
    Int64.le_trans within (Int64.le_of_lt before)
  obtain ⟨same, moved, reports⟩ := Desk.tick_of_samples something id
  constructor
  · exact same.trans watch.session_eq
  · rw [moved]
    exact Int64.le_trans watch.begun ahead
  · rw [moved]
    exact .inr (List.mem_append_right _ List.mem_cons_self)
  · intro tick looked other _ _ behind
    rw [moved] at behind
    rcases List.mem_append.mp looked with old | new
    · exact Int64.le_trans (later tick old) behind
    · cases List.mem_singleton.mp new
      exact behind
  · intro direction
    rw [watch.session_eq] at reports
    rw [reports direction (room direction), watch.reported, moved,
      tally_covers_append watch.begun ahead, watch.streamed_found stock kept positive]

/-- A tick moves the watch on: what it reported and what it still leaves open are again all of the
harvest. -/
theorem tick (watch : Watch session start metering.harvested desk ticks) (stock : Stock metering)
    (kept : metering.LossesSeen ticks) {now : Int64} (positive : 0 < now)
    (later : ∀ tick ∈ ticks, tick ≤ now) (id : Uuid)
    (room : ∀ direction,
      session.streamed direction (desk.reporter.found metering.store now) ≤ largestCount) :
    Watch session start metering.harvested (desk.tick metering.store id now) (ticks ++ [now]) := by
  by_cases nothing : desk.reporter.found metering.store now = []
  · rw [Desk.tick_of_nothing nothing]
    exact watch.tick_of_nothing stock kept positive nothing
  · exact watch.tick_of_samples stock kept positive later id room nothing

/-- The watch goes on through every run in which nothing is lost before it is looked at. -/
theorem after {first : Metering} {k : Nat} (here : first.desks[k]? = some desk)
    (watch : Watch session start first.harvested desk []) (stock : Stock first)
    {run : List (Happening n)} (onTime : OnTime run) (kept : Kept first k run)
    (windows : WindowsExact first k run) {earlier : List (Happening n)} (front : earlier <+: run) :
    ∃ desk', (first.after earlier).desks[k]? = some desk' ∧
      Watch session start (first.after earlier).harvested desk' (ticksOf k earlier) := by
  induction earlier using List.reverseRecOn with
  | nil => exact ⟨desk, here, watch⟩
  | append_singleton earlier last ih =>
      have before : earlier <+: run := (List.prefix_append _ _).trans front
      obtain ⟨desk', there, watching⟩ := ih before
      rw [Metering.after_concat, ticksOf_concat]
      cases last with
      | add addition =>
          rw [Happening.tickOf?, Option.toList_none, List.append_nil]
          exact ⟨desk', there, watching⟩
      | harvest now =>
          rw [Happening.tickOf?, Option.toList_none, List.append_nil]
          exact ⟨desk', there, watching.harvest ((onTime.last front rfl).2 k)⟩
      | tick j id now =>
          obtain ⟨positive, later⟩ := onTime.last front rfl
          rw [Happening.tickOf?]
          by_cases same : j = k
          · subst same
            rw [if_pos rfl]
            refine ⟨desk'.tick (first.after earlier).store id now, ?_, ?_⟩
            · rw [Metering.desks_step_tick, List.getElem?_modify_eq, there]
              rfl
            · have room := windows earlier id now front desk' there
              rw [watching.session_eq] at room
              exact watching.tick (stock.after earlier) (kept earlier before) positive (later _) id
                room
          · rw [if_neg same, Option.toList_none, List.append_nil]
            refine ⟨desk', ?_, watching⟩
            rw [Metering.desks_step_tick, List.getElem?_modify_ne _ _ same, there]

/-- At a look, whatever lies between the start and that moment lies before the window, or was never
there. -/
theorem reported_eq {harvested : List Sample} (watch : Watch session start harvested desk ticks)
    {stop : Int64} (looked : stop ∈ ticks) (last : ∀ tick ∈ ticks, tick ≤ stop)
    (direction : Direction) :
    desk.reported direction = tally (Sample.bytes direction)
      (fun sample => session.covers start stop sample.ip sample.port sample.windowEnd) harvested := by
  rw [watch.reported]
  apply tally_congr
  intro sample member
  rw [Bool.eq_iff_iff]
  simp only [Session.covers, Bool.and_eq_true, decide_eq_true_iff]
  constructor
  · rintro ⟨stream, after, before⟩
    refine ⟨stream, after, ?_⟩
    rcases watch.reached with first | moved
    · rw [first] at before
      exact absurd (Int64.lt_of_le_of_lt after before) Int64.lt_irrefl
    · exact Int64.lt_of_lt_of_le before (last _ moved)
  · rintro ⟨stream, after, before⟩
    refine ⟨stream, after, ?_⟩
    rw [← Int64.not_le]
    intro within
    have ahead := watch.passed stop looked sample member stream.1 within
    exact Int64.lt_irrefl (Int64.lt_of_le_of_lt ahead before)

end Watch

/-! ### The account -/

/-- Whatever collectors count, and whenever harvests and looks happen, the reports that a reporter
has made by the end of a look show exactly the bytes on streams of its session that harvests
exported from the start of the session on and before that look.

The clock is positive and never goes back; no sample leaves the store before the reporter has looked
at a time after its window; and no sum of bytes passes the largest count. -/
theorem reports_account_for_every_byte {collectors : List Collector}
    (fresh : ∀ collector ∈ collectors, collector.counters = []) (settings : StoreSettings)
    (sessions : List Session) (interval : Nat) (k : Fin sessions.length)
    {earlier : List (Happening collectors.length)} {id : Uuid} {stop : Int64}
    (onTime : OnTime (earlier ++ [.tick k id stop]))
    (kept : Kept (.create collectors settings sessions interval) k (earlier ++ [.tick k id stop]))
    (counters : CountersExact (earlier ++ [.tick k id stop]))
    (windows : WindowsExact (.create collectors settings sessions interval) k
      (earlier ++ [.tick k id stop])) :
    ∃ desk, ((Metering.create collectors settings sessions interval).after
        (earlier ++ [.tick k id stop])).desks[k.val]? = some desk ∧
      ∀ direction, desk.reported direction =
        tally (fun entry => entry.addition.bytes)
          (fun entry => entry.addition.counts direction fun ip port =>
            sessions[k].covers (Int64.ofInt sessions[k].startTime.millis) stop ip port entry.time)
          (Docket.of earlier).exported := by
  let first : Metering := .create collectors settings sessions interval
  have here : first.desks[k.val]? =
      some { reporter := .create sessions[k] 0 interval } := by
    simp [first, Metering.create]
  have stock : Stock first := ⟨Series.sorted_empty _, List.Subperm.refl _⟩
  have start : Watch sessions[k] (Int64.ofInt sessions[k].startTime.millis) first.harvested
      { reporter := .create sessions[k] 0 interval } [] :=
    ⟨rfl, Int64.le_refl _, .inl rfl, List.forall_mem_nil _, fun _ => rfl⟩
  obtain ⟨desk, there, watch⟩ :=
    start.after here stock onTime kept windows (List.prefix_refl _)
  have books := (Books.create fresh settings sessions interval).after counters (List.prefix_refl _)
  have ticks : ticksOf k (earlier ++ [.tick k id stop]) = ticksOf k earlier ++ [stop] := by
    rw [ticksOf_concat, Happening.tickOf?, if_pos rfl]
    rfl
  rw [ticks] at watch
  refine ⟨desk, there, fun direction => ?_⟩
  rw [watch.reported_eq (List.mem_append_right _ List.mem_cons_self) ?_ direction,
    books.harvested, Docket.of_concat]
  · rfl
  · intro tick looked
    rcases List.mem_append.mp looked with old | new
    · exact (onTime.last (List.prefix_refl _) rfl).2 _ tick old
    · cases List.mem_singleton.mp new
      exact Int64.le_refl _

/-- A session that streams on one port. -/
def sampleSession : Session where
  instanceId := "stream"
  vmId := 1
  streamPorts := [{ port := 80 }]
  startTime := .ofMillis 10

def sampleCollectors : List Collector :=
  [.create default default 0, .create default default 0]

def sampleAddition (collector : Fin 2) (length : UInt64) (port : UInt16) (direction : Direction) :
    Happening 2 :=
  .add ⟨collector, length, .v4 #v[192, 0, 2, 1], port, direction⟩

/-- Bytes that are exported before the session, on another port, at the time of a look and after
it, and looks that find nothing and nothing on the port. -/
def sampleRun : List (Happening 2) :=
  [sampleAddition 0 3 80 .up, .harvest 9, sampleAddition 0 100 80 .up, .harvest 10,
    .tick 0 default 10, sampleAddition 1 20 80 .down, .harvest 10, .tick 1 default 11,
    .tick 0 default 12, sampleAddition 0 7 80 .up, .harvest 12, .tick 0 default 13,
    sampleAddition 1 1 81 .up, .harvest 14, .tick 0 default 15, .harvest 15]

theorem reports_account_for_every_byte_of_sampleRun :
    ∃ desk, ((Metering.create sampleCollectors {} [sampleSession, sampleSession] 10).after
        (sampleRun ++ [.tick 0 default 16])).desks[0]? = some desk ∧
      desk.reported .up = 107 ∧ desk.reported .down = 20 := by
  have fresh : ∀ collector ∈ sampleCollectors, collector.counters = [] := by
    simp [sampleCollectors, Collector.create]
  have small : bytesAdded (sampleRun ++ [.tick 0 default 16]) ≤ largestCount := by decide +kernel
  have positive : (List.filterMap Happening.time? (sampleRun ++ [.tick 0 default 16])).all
      (fun time => decide (0 < time)) = true := by decide +kernel
  have onTime : OnTime (sampleRun ++ [.tick 0 default 16]) :=
    ⟨by decide +kernel, fun time member =>
      of_decide_eq_true (List.all_eq_true.mp positive time member)⟩
  let first : Metering := .create sampleCollectors {} [sampleSession, sampleSession] 10
  have stock : Stock first := ⟨Series.sorted_empty _, List.Subperm.refl _⟩
  have books : Books first (Docket.of ([] : List (Happening 2))) := .create fresh {} _ 10
  have room : (first.after (sampleRun ++ [.tick 0 default 16])).harvested.length ≤
      first.store.series.capacity := by decide +kernel
  obtain ⟨desk, there, accounted⟩ := reports_account_for_every_byte fresh {}
    [sampleSession, sampleSession] 10 (0 : Fin 2) onTime (.of_room stock (List.Perm.refl _) 0 room)
    (.of_bytesAdded small) (.of_bytesAdded stock books 0 small)
  refine ⟨desk, there, ?_, ?_⟩
  · rw [accounted]
    decide +kernel
  · rw [accounted]
    decide +kernel

end TrafficMeter
