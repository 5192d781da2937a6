/-
Module: TrafficMeter.Proofs.SaturatedTotals
Purpose: Totals that stop at the largest count, and do so once.  Bytes are added up within samples and
  then over samples, and each sum stays at the largest count where it would pass it.  However the bytes
  are shared out among samples, and in whatever order all of this happens, the totals are the exact sums
  up to the largest count; and what collectors count and hand out is such a sharing.
Main exports: Increment, volume, Sample.addAll, Share, Shared, Shared.bytes_totals, Collector.Run,
  Collector.Run.shared, totals_saturate_once
-/
import Mathlib
import TrafficMeter.Proofs.CounterWindows
import TrafficMeter.Proofs.ReportWindows

namespace TrafficMeter.Usage

open Net

theorem clamp_eq_zero_iff {n : Nat} : min (UInt64.size - 1) n = 0 ↔ n = 0 := by
  rw [UInt64.size]
  omega

/-! ### Increments -/

/-- Bytes that are added in one direction. -/
structure Increment where
  length : UInt64
  direction : Direction
deriving DecidableEq, Repr

/-- The exact sum of the lengths in one direction. -/
def volume (direction : Direction) (increments : List Increment) : Nat :=
  tally (fun increment => increment.length.toNat) (fun increment => increment.direction == direction)
    increments

section Volume

variable {direction : Direction} {increments others : List Increment}

theorem volume_append : volume direction (increments ++ others) =
    volume direction increments + volume direction others :=
  tally_append _ _ _ _

/-- The exact sum does not depend on the order. -/
theorem volume_perm (perm : increments.Perm others) :
    volume direction increments = volume direction others :=
  tally_perm _ _ perm

/-- No bytes go in any direction exactly if every increment is of none. -/
theorem volume_eq_zero_iff : (∀ direction, volume direction increments = 0) ↔
    ∀ increment ∈ increments, increment.length = 0 := by
  simp only [volume, tally_eq_zero_iff, beq_iff_eq]
  constructor
  · intro none increment member
    exact UInt64.toNat_inj.mp (none increment.direction increment member rfl)
  · intro none direction increment member _
    rw [none increment member]
    rfl

end Volume

/-! ### One sample -/

namespace Sample

/-- Count increments one after another. -/
def addAll (sample : Sample) (increments : List Increment) : Sample :=
  increments.foldl (fun sample increment => sample.add increment.length increment.direction) sample

/-- A sample that is given increments holds the exact sum, up to the largest count. -/
theorem bytes_addAll (sample : Sample) (increments : List Increment) (direction : Direction) :
    (sample.addAll increments).bytes direction =
      min (UInt64.size - 1) (sample.bytes direction + volume direction increments) := by
  induction increments generalizing sample with
  | nil => exact (Nat.min_eq_right (Nat.le_sub_one_of_lt (sample.bytes_lt direction))).symm
  | cons increment later ih =>
      have more := sample.bytes_add_eq_min increment.length increment.direction direction
      have split : volume direction (increment :: later) =
          (if increment.direction = direction then increment.length.toNat else 0) +
            volume direction later := by
        simp only [volume, tally_cons, beq_iff_eq]
      have rest : (sample.addAll (increment :: later)).bytes direction = _ :=
        ih (sample.add increment.length increment.direction)
      rw [rest, more, split]
      omega

theorem bytes_stamp (sample : Sample) (now : Int64) (direction : Direction) :
    ({ sample with windowEnd := now } : Sample).bytes direction = sample.bytes direction := by
  cases direction <;> rfl

/-- The end of its window is no matter for what a sample counts. -/
theorem addAll_stamp (sample : Sample) (now : Int64) (increments : List Increment) :
    ({ sample with windowEnd := now } : Sample).addAll increments =
      { sample.addAll increments with windowEnd := now } := by
  induction increments generalizing sample with
  | nil => rfl
  | cons increment later ih =>
      have one : ({ sample with windowEnd := now } : Sample).add increment.length
          increment.direction =
          { sample.add increment.length increment.direction with windowEnd := now } := by
        cases increment.direction <;> rfl
      exact (congrArg (·.addAll later) one).trans (ih _)

end Sample

/-! ### Increments that are shared out -/

/-- A sample that begins with nothing, and the increments that it is given. -/
structure Share where
  blank : Sample
  nothing : ∀ direction, blank.bytes direction = 0
  part : List Increment

def Share.sample (share : Share) : Sample :=
  share.blank.addAll share.part

/-- The samples are what becomes of the increments when they are shared out among them, in any way and
in any order. -/
def Shared (increments : List Increment) (samples : List Sample) : Prop :=
  ∃ shares : List Share,
    (shares.flatMap Share.part).Perm increments ∧ shares.map Share.sample = samples

/-- The counter of a share is the exact sum of its part, up to the largest number. -/
theorem Share.bytes_sample (share : Share) (direction : Direction) :
    share.sample.bytes direction = min (UInt64.size - 1) (volume direction share.part) := by
  rw [sample, Sample.bytes_addAll, share.nothing, Nat.zero_add]

/-- A sum that stops at the largest count is the same whether its parts have stopped there before. -/
theorem Share.min_tally (shares : List Share) (direction : Direction) :
    min (UInt64.size - 1) (tally (Sample.bytes direction) (fun _ => true) (shares.map sample)) =
      min (UInt64.size - 1) (volume direction (shares.flatMap part)) := by
  induction shares with
  | nil => rfl
  | cons share others ih =>
      -- a sum is clamped alike whether its summands are clamped or not
      rw [List.map_cons, tally_cons, if_pos rfl, List.flatMap_cons, volume_append, bytes_sample]
      omega

/-- Counting for an endpoint gives the increment to one counter, or to a new one. -/
theorem Share.countIn (shares : List Share) {fresh : Sample}
    (nothing : ∀ direction, fresh.bytes direction = 0) (increment : Increment) :
    ∃ shares' : List Share, (shares'.flatMap part).Perm (shares.flatMap part ++ [increment]) ∧
      shares'.map sample =
        Collector.countIn fresh increment.length increment.direction (shares.map sample) := by
  induction shares with
  | nil => exact ⟨[⟨fresh, nothing, [increment]⟩], .refl _, rfl⟩
  | cons share others ih =>
      rw [List.map_cons, Collector.countIn]
      split
      · refine ⟨{ share with part := share.part ++ [increment] } :: others, ?_, ?_⟩
        · simp only [List.flatMap_cons, List.append_assoc]
          exact (List.perm_append_comm).append_left _
        · simp [sample, Sample.addAll]
      · obtain ⟨shares', parts, made⟩ := ih
        refine ⟨share :: shares', ?_, by rw [List.map_cons, made]⟩
        rw [List.flatMap_cons, List.flatMap_cons, List.append_assoc]
        exact parts.append_left _

namespace Shared

variable {increments others : List Increment} {samples more : List Sample}

theorem nil : Shared [] [] :=
  ⟨[], .nil, rfl⟩

theorem perm (shared : Shared increments samples) (perm : increments.Perm others) :
    Shared others samples := by
  obtain ⟨shares, parts, made⟩ := shared
  exact ⟨shares, parts.trans perm, made⟩

/-- What is shared out in two lots is shared out in one. -/
theorem append (shared : Shared increments samples) (shared' : Shared others more) :
    Shared (increments ++ others) (samples ++ more) := by
  obtain ⟨shares, parts, rfl⟩ := shared
  obtain ⟨shares', parts', rfl⟩ := shared'
  refine ⟨shares ++ shares', ?_, List.map_append⟩
  rw [List.flatMap_append]
  exact parts.append parts'

/-- Setting the end of the window keeps what the samples count. -/
theorem stamp (shared : Shared increments samples) (now : Int64) :
    Shared increments (samples.map fun sample => { sample with windowEnd := now }) := by
  obtain ⟨shares, parts, rfl⟩ := shared
  let stamped (share : Share) : Share :=
    { share with
      blank := { share.blank with windowEnd := now }
      nothing := fun direction => (share.blank.bytes_stamp now direction).trans
        (share.nothing direction) }
  refine ⟨shares.map stamped, ?_, ?_⟩
  · rw [List.flatMap_map]
    exact parts
  · rw [List.map_map, List.map_map]
    apply List.map_congr_left
    intro share _
    exact share.blank.addAll_stamp now share.part

/-- One more increment joins the part of the sample that counts it, or makes a part of its own. -/
theorem countIn (shared : Shared increments samples) {fresh : Sample}
    (nothing : ∀ direction, fresh.bytes direction = 0) (increment : Increment) :
    Shared (increments ++ [increment])
      (Collector.countIn fresh increment.length increment.direction samples) := by
  obtain ⟨shares, parts, rfl⟩ := shared
  obtain ⟨shares', parts', made⟩ := Share.countIn shares nothing increment
  exact ⟨shares', parts'.trans (parts.append_right _), made⟩

/-- Totals over samples are the exact sums, up to the largest count. -/
theorem bytes_totals (shared : Shared increments samples) {listed : List Sample}
    (perm : listed.Perm samples) (direction : Direction) :
    (Totals.of listed).bytes direction = min (UInt64.size - 1) (volume direction increments) := by
  obtain ⟨shares, parts, rfl⟩ := shared
  rw [Totals.bytes_of, tally_perm _ _ perm, ← volume_perm parts]
  exact Share.min_tally shares direction

end Shared

/-- Nothing went in either direction, by the test on the totals, exactly if nothing was added. -/
theorem Shared.isSilent_iff {increments : List Increment} {samples listed : List Sample}
    (shared : Shared increments samples) (perm : listed.Perm samples) :
    (Totals.of listed).isSilent = true ↔ ∀ increment ∈ increments, increment.length = 0 := by
  simp only [Totals.isSilent_iff, shared.bytes_totals perm, clamp_eq_zero_iff]
  exact volume_eq_zero_iff

theorem Totals.eq_of_bytes {totals others : Totals}
    (same : ∀ direction, totals.bytes direction = others.bytes direction) : totals = others := by
  obtain ⟨up, down⟩ := totals
  obtain ⟨up', down'⟩ := others
  have ups : up = up' := UInt64.toNat_inj.mp (same .up)
  have downs : down = down' := UInt64.toNat_inj.mp (same .down)
  rw [ups, downs]

/-! ### What collectors make of it -/

/-- What an event adds to a counter. -/
def Collector.Event.increment? (interface : Interface) (filter : Filter) (event : Event) :
    Option Increment :=
  (event.credit? interface filter).map fun credit =>
    ⟨UInt64.ofNat credit.length, credit.direction⟩

/-- A collector, and what happens to it. -/
structure Collector.Run where
  interface : Interface
  settings : CaptureSettings
  filter : Filter
  created : Int64
  events : List Event

namespace Collector

/-- What the collector has become, with all that it has handed out. -/
def Run.trial (run : Run) : Trial :=
  (⟨.create run.interface run.settings run.created, []⟩ : Trial).after run.filter run.events

/-- All samples that were handed out, and those that are still counted in. -/
def Run.samples (run : Run) : List Sample :=
  run.trial.exports.flatten ++ run.trial.collector.counters

def Run.increments (run : Run) : List Increment :=
  run.events.filterMap (Event.increment? run.interface run.filter)

/-- What was added before the last export is shared out among the samples handed out, and what was
added since then among the counters. -/
structure Trial.Spreads (interface : Interface) (trial : Trial) (increments : List Increment) :
    Prop where
  interface_eq : trial.collector.interface = interface
  shared : ∃ gone held, increments = gone ++ held ∧ Shared gone trial.exports.flatten ∧
    Shared held trial.collector.counters

namespace Trial.Spreads

variable {interface : Interface} {filter : Filter} {trial : Trial} {increments : List Increment}

theorem create (interface : Interface) (settings : CaptureSettings) (created : Int64) :
    Spreads interface ⟨.create interface settings created, []⟩ [] where
  interface_eq := rfl
  shared := ⟨[], [], rfl, .nil, .nil⟩

theorem count (spreads : Spreads interface trial increments) (increment : Increment)
    (ip : IpAddress) (port : UInt16) :
    Spreads interface
      { trial with
        collector := trial.collector.count increment.length ip port increment.direction }
      (increments ++ [increment]) := by
  obtain ⟨same, gone, held, rfl, out, counters⟩ := spreads
  refine ⟨same, gone, held ++ [increment], List.append_assoc .., out, ?_⟩
  apply counters.countIn
  intro direction
  cases direction <;> rfl

/-- Handing out moves the samples, and with them their parts. -/
theorem handOut (spreads : Spreads interface trial increments) (now : Int64) :
    Spreads interface (trial.step filter (.handOut now)) increments := by
  obtain ⟨same, gone, held, rfl, out, counters⟩ := spreads
  refine ⟨same, gone ++ held, [], (List.append_nil _).symm, ?_, .nil⟩
  have later : (trial.step filter (.handOut now)).exports.flatten = trial.exports.flatten ++
      trial.collector.counters.map fun sample => { sample with windowEnd := now } := by
    simp [Trial.step, exportAt]
  rw [later]
  exact out.append (counters.stamp now)

/-- Every event adds its increment, if it has one, to what is shared out. -/
theorem step (spreads : Spreads interface trial increments) (event : Event) :
    Spreads interface (trial.step filter event)
      (increments ++ (event.increment? interface filter).toList) := by
  cases event with
  | capture frame measured =>
      have observed := observe_eq trial.collector filter frame
      rw [spreads.interface_eq] at observed
      rw [Trial.step, observed, Event.increment?]
      dsimp only [Event.credit?]
      cases Usage.credit? interface filter frame with
      | none =>
          rw [Option.map_none, Option.toList_none, List.append_nil]
          exact spreads
      | some credit =>
          exact spreads.count ⟨UInt64.ofNat credit.length, credit.direction⟩ credit.ip credit.port
  | add length ip port direction =>
      have same : (Event.add length ip port direction).increment? interface filter =
          some ⟨length, direction⟩ := by
        simp [Event.increment?, Event.credit?]
      rw [same]
      exact spreads.count ⟨length, direction⟩ ip port
  | handOut now =>
      have none : (Event.handOut now).increment? interface filter = none := rfl
      rw [none, Option.toList_none, List.append_nil]
      exact spreads.handOut now

/-- So it is after any events. -/
theorem after (spreads : Spreads interface trial increments) (events : List Event) :
    Spreads interface (trial.after filter events)
      (increments ++ events.filterMap (Event.increment? interface filter)) := by
  induction events generalizing trial increments with
  | nil => simpa [Trial.after] using spreads
  | cons event later ih =>
      have whole : increments ++ (event :: later).filterMap (Event.increment? interface filter) =
          increments ++ (event.increment? interface filter).toList ++
            later.filterMap (Event.increment? interface filter) := by
        cases counted : event.increment? interface filter <;> simp [counted]
      rw [whole]
      exact ih (spreads.step event)

end Trial.Spreads

/-- What is added at a collector is shared out among all its samples. -/
theorem Run.shared (run : Run) : Shared run.increments run.samples := by
  have begun := Trial.Spreads.create run.interface run.settings run.created
  have ended : Trial.Spreads run.interface run.trial ([] ++ run.increments) := begun.after run.events
  obtain ⟨_, gone, held, parts, out, counters⟩ := ended
  rw [List.nil_append] at parts
  rw [parts]
  exact out.append counters

theorem Run.shared_flatMap (runs : List Run) :
    Shared (runs.flatMap Run.increments) (runs.flatMap Run.samples) := by
  induction runs with
  | nil => exact .nil
  | cons run others ih => exact run.shared.append ih

end Collector

end TrafficMeter.Usage

namespace TrafficMeter

open Usage

/-! ### What a reporter makes of it -/

/-- The samples on the stream ports of the session, among those that a reporter finds. -/
def Reporter.foundOnPorts (reporter : Reporter) (store : Store) (now : Int64) : List Sample :=
  (reporter.found store now).filter fun sample => reporter.session.acceptsPort sample.port

namespace Reporter

variable {reporter : Reporter} {store : Store} {id : Uuid} {now : Int64}

/-- No stream bytes in the exact sum is the same as none in the saturated one, in both directions.
-/
theorem streamed_eq_zero_iff :
    (∀ direction, reporter.session.streamed direction (reporter.found store now) = 0) ↔
      (Totals.of (reporter.foundOnPorts store now)).isSilent = true := by
  have shown (direction : Direction) :
      (Totals.of (reporter.foundOnPorts store now)).bytes direction =
        min (UInt64.size - 1) (reporter.session.streamed direction (reporter.found store now)) :=
    reporter.session.streamed_eq direction (reporter.found store now)
  simp only [Totals.isSilent_iff, shown, clamp_eq_zero_iff]

/-- A look reports exactly if bytes went over stream ports. -/
theorem isSome_tick_iff : (reporter.tick store id now).1.isSome = true ↔
    ¬ (Totals.of (reporter.foundOnPorts store now)).isSilent = true := by
  rw [← streamed_eq_zero_iff]
  rcases reporter.tick_cases store id now with
    ⟨nothing, looked⟩ | ⟨_, silent, looked⟩ | ⟨_, some, looked⟩
  · rw [looked, nothing]
    exact iff_of_false (by simp) (not_not.mpr fun _ => rfl)
  · rw [looked]
    exact iff_of_false (by simp) (not_not.mpr silent)
  · rw [looked]
    exact iff_of_true rfl some

/-- The report of a look shows the totals of what was found. -/
theorem bytes_of_tick {report : Report} (made : (reporter.tick store id now).1 = some report)
    (direction : Direction) :
    report.totalBytes direction = (Totals.of (reporter.found store now)).bytes direction ∧
      report.streamBytes direction =
        (Totals.of (reporter.foundOnPorts store now)).bytes direction := by
  rcases reporter.tick_cases store id now with ⟨_, looked⟩ | ⟨_, _, looked⟩ | ⟨_, _, looked⟩
  all_goals
    rw [looked] at made
    cases made
  cases direction <;> exact ⟨rfl, rfl⟩

end Reporter

/-- However increments are shared out among samples, and in whatever order they are added and the
samples are listed, the totals of the samples are the exact sums of the increments in each direction,
up to the largest number of 64 bits.  So they are the same for every such sharing, and the test for no
bytes at all holds exactly if every increment was of none.  A report shows these totals, and is made
exactly if some increment on the stream ports was not of none.  One sample alone can be given all
increments; and whatever happens to collectors, what was added at them is shared out among the samples
that they have handed out and those that they still hold. -/
theorem totals_saturate_once (increments : List Increment) :
    (∀ samples listed, Shared increments samples → listed.Perm samples →
      (∀ direction, (Totals.of listed).bytes direction =
        min (UInt64.size - 1) (volume direction increments)) ∧
      ((Totals.of listed).isSilent = true ↔ ∀ increment ∈ increments, increment.length = 0) ∧
      (∀ others, Shared increments others → Totals.of others = Totals.of listed) ∧
      ∀ (reporter : Reporter) (store : Store) (id : Uuid) (now : Int64) (streamed : List Increment),
        reporter.found store now = listed → Shared streamed (reporter.foundOnPorts store now) →
        ((reporter.tick store id now).1.isSome = true ↔
          ∃ increment ∈ streamed, increment.length ≠ 0) ∧
        ∀ report, (reporter.tick store id now).1 = some report → ∀ direction,
          report.totalBytes direction = min (UInt64.size - 1) (volume direction increments) ∧
            report.streamBytes direction = min (UInt64.size - 1) (volume direction streamed)) ∧
      (∀ blank : Sample, (∀ direction, blank.bytes direction = 0) →
        Shared increments [blank.addAll increments] ∧
          (blank.addAll increments).total.toNat = min (UInt64.size - 1)
            (volume .up increments + volume .down increments)) ∧
      ∀ runs : List Collector.Run, (runs.flatMap Collector.Run.increments).Perm increments →
        Shared increments (runs.flatMap Collector.Run.samples) := by
  refine ⟨fun samples listed shared perm => ⟨shared.bytes_totals perm, shared.isSilent_iff perm,
    ?same, ?reports⟩, fun blank nothing => ⟨?one, ?total⟩, ?runs⟩
  case same =>
    intro others shared'
    apply Totals.eq_of_bytes
    intro direction
    rw [shared'.bytes_totals (.refl _), shared.bytes_totals perm]
  case reports =>
    rintro reporter store id now streamed rfl ports
    refine ⟨?_, fun report made direction => ?_⟩
    · rw [Reporter.isSome_tick_iff, ports.isSilent_iff (.refl _)]
      push Not
      rfl
    · obtain ⟨total, stream⟩ := Reporter.bytes_of_tick made direction
      rw [total, stream, shared.bytes_totals perm, ports.bytes_totals (.refl _)]
      exact ⟨rfl, rfl⟩
  case one =>
    exact ⟨[⟨blank, nothing, increments⟩], by simp, rfl⟩
  case total =>
    have up : (blank.addAll increments).up.toNat = _ := blank.bytes_addAll increments .up
    have down : (blank.addAll increments).down.toNat = _ := blank.bytes_addAll increments .down
    rw [nothing, Nat.zero_add] at up down
    rw [Sample.total, toNat_addSaturating, up, down]
    show min (UInt64.size - 1) _ = _
    omega
  case runs =>
    intro runs perm
    exact (Collector.Run.shared_flatMap runs).perm perm

/-- A counter runs full and is handed out, and more is added to the next one, at a second endpoint and
at another collector. -/
def sampleRuns : List Collector.Run :=
  let host : Net.IpAddress := .v4 (Net.IpAddress.quad 192 0 2 1)
  let run (events : List Collector.Event) : Collector.Run :=
    { interface := ⟨"eth0", .zero⟩, settings := {}, filter := .any, created := 0, events }
  [run [.add 18446744073709551615 host 443 .up, .handOut 4, .add 5 host 443 .up,
      .add 7 host 80 .down, .handOut 5],
    run [.add 3 host 443 .up, .add 0 host 81 .down, .handOut 5]]

theorem totals_saturate_once_of_sampleRuns :
    let increments := sampleRuns.flatMap Collector.Run.increments
    let samples := sampleRuns.flatMap Collector.Run.samples
    let store : Store := { Store.create [] {} with series := { samples := samples.toArray } }
    let reporter : Reporter :=
      .create { instanceId := "a", vmId := 1, startTime := .ofMillis 0 } 0 10
    let blank := (Collector.create ⟨"eth0", .zero⟩ {} 0).fresh default 443
    (Totals.of samples.reverse).bytes .up = 18446744073709551615 ∧
      (Totals.of samples.reverse).bytes .down = 7 ∧
      (blank.addAll increments).total.toNat = 18446744073709551615 ∧
      ∃ report, (reporter.tick store default 9).1 = some report ∧
        report.totalBytes .up = 18446744073709551615 ∧ report.streamBytes .down = 7 := by
  intro increments samples store reporter blank
  obtain ⟨totals, single, runs⟩ := totals_saturate_once increments
  have shared : Shared increments samples := runs sampleRuns (.refl _)
  have up : volume .up increments = 18446744073709551623 := by decide +kernel
  have down : volume .down increments = 7 := by decide +kernel
  have size : UInt64.size = 18446744073709551616 := rfl
  obtain ⟨bytes, _, _, _⟩ := totals samples samples.reverse shared samples.reverse_perm
  have nothing : ∀ direction, blank.bytes direction = 0 := by
    rintro (_ | _) <;> rfl
  refine ⟨?_, ?_, ?_, ?_⟩
  · rw [bytes, up, size]
    rfl
  · rw [bytes, down, size]
    rfl
  · rw [(single blank nothing).2, up, down, size]
    rfl
  · have found : reporter.found store 9 = samples := by decide +kernel
    have ports : reporter.foundOnPorts store 9 = samples := by decide +kernel
    obtain ⟨_, _, _, looked⟩ := totals samples samples shared (.refl _)
    obtain ⟨reports, shown⟩ :=
      looked reporter store default 9 increments found (ports.symm ▸ shared)
    have some : ∃ increment ∈ increments, increment.length ≠ 0 :=
      ⟨⟨7, .down⟩, by decide +kernel, by decide⟩
    obtain ⟨report, made⟩ := Option.isSome_iff_exists.mp (reports.mpr some)
    refine ⟨report, made, ?_, ?_⟩
    · rw [(shown report made .up).1, up, size]
      rfl
    · rw [(shown report made .down).2, down, size]
      rfl

end TrafficMeter
