/-
Module: TrafficMeter.Proofs.MeteringBooks
Purpose: Collectors count, harvests move the counters into a series, and reporters look at it, at any
  times and in any order.  While no counter overflows, the counters and the harvested samples hold
  the bytes that were added, by endpoint, direction and time of export; and the series holds harvested
  samples, all of them while it has room.
Main exports: Metering, Metering.step, Docket, CountersExact, Books, Books.after, Stock, Stock.after
-/
import Mathlib.Data.List.Induction
import TrafficMeter.Proofs.CounterSums
import TrafficMeter.Proofs.SeriesRange
import TrafficMeter.Reporter

namespace TrafficMeter

open Net Usage

variable {n : Nat}

/-! ### What happens -/

/-- Bytes that one of `n` collectors counts. -/
structure Addition (n : Nat) where
  collector : Fin n
  length : UInt64
  ip : IpAddress
  port : UInt16
  direction : Direction

/-- What happens to collectors, to the store over them and to the reporters that look at it. -/
inductive Happening (n : Nat) where
  | add (addition : Addition n)
  | harvest (now : Int64)
  | tick (desk : Nat) (id : Uuid) (now : Int64)

/-- The time of what happens; counting takes no note of it. -/
def Happening.time? : Happening n → Option Int64
  | .add _ => none
  | .harvest now => some now
  | .tick _ _ now => some now

/-- A reporter with the reports that it has made. -/
structure Desk where
  reporter : Reporter
  reports : List Report := []

def Desk.tick (desk : Desk) (store : Store) (id : Uuid) (now : Int64) : Desk where
  reporter := (desk.reporter.tick store id now).2
  reports := desk.reports ++ (desk.reporter.tick store id now).1.toList

/-- The samples that a harvest takes out of the collectors while the clock stands still. -/
def Usage.Store.batch (store : Store) (now : Int64) : List Sample :=
  store.collectors.flatMap fun collector => (collector.exportAt now).1

/-- Where the clock shows the same to all collectors, it does not matter which one is asked when. -/
theorem Usage.Store.harvest_eq (store : Store) (now : Int64) :
    store.harvest now = ((store.batch now).length,
      { store with
        collectors := store.collectors.map fun collector => (collector.exportAt now).2
        series := store.series.merge (store.batch now) }) := by
  have still {β : Type} (f : Collector → β) :
      store.collectors.mapIdx (fun _ collector => f collector) = store.collectors.map f := by
    apply List.ext_getElem?
    intro index
    rw [List.getElem?_mapIdx, List.getElem?_map]
  have batch : (store.batchBy fun _ => now) = store.batch now := by
    rw [batchBy, still, Store.batch, List.flatMap_def]
  rw [harvest, harvestBy, batch, still]

/-- A store over collectors, and reporters that look at it. -/
structure Metering where
  store : Store
  desks : List Desk
  /-- every sample that a harvest has taken out of the collectors -/
  harvested : List Sample := []

namespace Metering

/-- A store over some collectors, and a reporter for each session. -/
def create (collectors : List Collector) (settings : StoreSettings) (sessions : List Session)
    (interval : Nat) : Metering where
  store := .create collectors settings
  desks := sessions.map fun session => { reporter := .create session 0 interval }

def step (metering : Metering) : Happening n → Metering
  | .add addition =>
      { metering with
        store := metering.store.modifyCollector addition.collector fun collector =>
          collector.count addition.length addition.ip addition.port addition.direction }
  | .harvest now =>
      { metering with
        store := (metering.store.harvest now).2
        harvested := metering.harvested ++ metering.store.batch now }
  | .tick desk id now =>
      { metering with desks := metering.desks.modify desk fun desk => desk.tick metering.store id now }

def after (metering : Metering) (run : List (Happening n)) : Metering :=
  run.foldl step metering

theorem after_concat (metering : Metering) (run : List (Happening n)) (last : Happening n) :
    metering.after (run ++ [last]) = (metering.after run).step last :=
  List.foldl_concat _ _ _ _

section Steps

variable (metering : Metering) (now : Int64)

@[simp] theorem collectors_step_add (addition : Addition n) :
    (metering.step (.add addition)).store.collectors =
      metering.store.collectors.modify addition.collector fun collector =>
        collector.count addition.length addition.ip addition.port addition.direction :=
  rfl

/-- A harvest empties every collector and starts its next window. -/
@[simp] theorem collectors_step_harvest :
    (metering.step (.harvest now : Happening n)).store.collectors =
      metering.store.collectors.map fun collector => (collector.exportAt now).2 := by
  rw [step, Store.harvest_eq]

/-- All that it takes out goes to the series at once. -/
@[simp] theorem series_step_harvest :
    (metering.step (.harvest now : Happening n)).store.series =
      metering.store.series.merge (metering.store.batch now) := by
  rw [step, Store.harvest_eq]

/-- And stays on record, whether the series keeps it or not. -/
@[simp] theorem harvested_step_harvest :
    (metering.step (.harvest now : Happening n)).harvested =
      metering.harvested ++ metering.store.batch now :=
  rfl

@[simp] theorem desks_step_tick (desk : Nat) (id : Uuid) :
    (metering.step (.tick desk id now : Happening n)).desks =
      metering.desks.modify desk fun desk => desk.tick metering.store id now :=
  rfl

end Steps

end Metering

/-- An addition with the time of the harvest that exported it. -/
structure Exported (n : Nat) where
  time : Int64
  addition : Addition n

/-- The additions of a run, by whether a harvest came after them. -/
structure Docket (n : Nat) where
  pending : List (Addition n) := []
  exported : List (Exported n) := []

def Docket.step (docket : Docket n) : Happening n → Docket n
  | .add addition => { docket with pending := docket.pending ++ [addition] }
  | .harvest now =>
      { pending := []
        exported := docket.exported ++ docket.pending.map fun addition => ⟨now, addition⟩ }
  | .tick _ _ _ => docket

def Docket.of (run : List (Happening n)) : Docket n :=
  run.foldl step {}

@[simp] theorem Docket.pending_step_add (docket : Docket n) (addition : Addition n) :
    (docket.step (.add addition)).pending = docket.pending ++ [addition] :=
  rfl

@[simp] theorem Docket.pending_step_harvest (docket : Docket n) (now : Int64) :
    (docket.step (.harvest now)).pending = [] :=
  rfl

/-- What was pending is exported at the time of the harvest. -/
@[simp] theorem Docket.exported_step_harvest (docket : Docket n) (now : Int64) :
    (docket.step (.harvest now)).exported =
      docket.exported ++ docket.pending.map fun addition => ⟨now, addition⟩ :=
  rfl

/-- A docket is kept up from one happening to the next. -/
theorem Docket.of_concat (run : List (Happening n)) (last : Happening n) :
    Docket.of (run ++ [last]) = (Docket.of run).step last :=
  List.foldl_concat _ _ _ _

def Addition.bytes (addition : Addition n) : Nat :=
  addition.length.toNat

/-- Whether an addition goes in a direction, and its endpoint is asked for. -/
def Addition.counts (direction : Direction) (q : IpAddress → UInt16 → Bool)
    (addition : Addition n) : Bool :=
  q addition.ip addition.port && addition.direction == direction

/-- No counter passes the largest count before it is exported. -/
def CountersExact (run : List (Happening n)) : Prop :=
  ∀ earlier, earlier <+: run → ∀ (collector : Fin n) (ip : IpAddress) (port : UInt16)
    (direction : Direction),
    tally Addition.bytes (fun addition => decide (addition.collector = collector) &&
      addition.counts direction fun ip' port' => ip' == ip && port' == port)
      (Docket.of earlier).pending ≤ largestCount

/-! ### The books of the collectors -/

/-- Counters and harvested samples hold the bytes that were added, by collector, endpoint, direction
and time of export. -/
structure Books (metering : Metering) (docket : Docket n) : Prop where
  counters : ∀ c : Fin n, ∃ collector, metering.store.collectors[c.val]? = some collector ∧
    ∀ (direction : Direction) (q : IpAddress → UInt16 → Bool),
      tally (Sample.bytes direction) (fun sample => q sample.ip sample.port) collector.counters =
        tally Addition.bytes (fun addition => decide (addition.collector = c) &&
          addition.counts direction q) docket.pending
  whole : ∀ (direction : Direction) (q : IpAddress → UInt16 → Bool),
    tally (Sample.bytes direction) (fun sample => q sample.ip sample.port)
        (metering.store.collectors.flatMap Collector.counters) =
      tally Addition.bytes (Addition.counts direction q) docket.pending
  harvested : ∀ (direction : Direction) (q : IpAddress → UInt16 → Int64 → Bool),
    tally (Sample.bytes direction) (fun sample => q sample.ip sample.port sample.windowEnd)
        metering.harvested =
      tally (fun entry => entry.addition.bytes)
        (fun entry => entry.addition.counts direction fun ip port => q ip port entry.time)
        docket.exported

namespace Books

variable {metering : Metering} {docket : Docket n}

/-- A harvest exports every pending addition. -/
theorem harvest (books : Books metering docket) (now : Int64) :
    Books (metering.step (.harvest now : Happening n)) (docket.step (.harvest now)) := by
  refine ⟨fun c => ?_, fun direction q => ?_, fun direction q => ?_⟩
  · obtain ⟨collector, here, _⟩ := books.counters c
    refine ⟨(collector.exportAt now).2, ?_, fun direction q => rfl⟩
    rw [Metering.collectors_step_harvest, List.getElem?_map, here]
    rfl
  · have emptied : (metering.store.collectors.map fun collector => (collector.exportAt now).2).flatMap
        Collector.counters = [] := by
      rw [List.flatMap_map]
      exact List.flatMap_eq_nil_iff.mpr fun _ _ => rfl
    rw [Metering.collectors_step_harvest, emptied, Docket.pending_step_harvest]
    rfl
  · have stamped : metering.store.batch now =
        (metering.store.collectors.flatMap Collector.counters).map fun sample =>
          { sample with windowEnd := now } :=
      (List.map_flatMap ..).symm
    have batch := books.whole direction fun ip port => q ip port now
    rw [Metering.harvested_step_harvest, Docket.exported_step_harvest, tally_append, tally_append,
      books.harvested, stamped, tally_map, tally_map]
    exact congrArg (_ + ·) batch

/-- An addition is counted where it was made. -/
theorem add (books : Books metering docket) (addition : Addition n)
    (room : tally Addition.bytes (fun other => decide (other.collector = addition.collector) &&
      other.counts addition.direction fun ip port => ip == addition.ip && port == addition.port)
      (docket.pending ++ [addition]) ≤ largestCount) :
    Books (metering.step (.add addition)) (docket.step (.add addition)) := by
  obtain ⟨collector, here, held⟩ := books.counters addition.collector
  -- the counter of the endpoint has room for these bytes, so they are counted in full
  have fits : tally (Sample.bytes addition.direction) (Sample.isOf addition.ip addition.port)
      collector.counters + addition.length.toNat ≤ largestCount := by
    have before := held addition.direction fun ip port => ip == addition.ip && port == addition.port
    rw [tally_concat, ← before, if_pos (by simp [Addition.counts])] at room
    exact room
  let grow (collector : Collector) : Collector :=
    collector.count addition.length addition.ip addition.port addition.direction
  have grown : ∀ (direction : Direction) (q : IpAddress → UInt16 → Bool),
      tally (Sample.bytes direction) (fun sample => q sample.ip sample.port)
          (grow collector).counters =
        tally (Sample.bytes direction) (fun sample => q sample.ip sample.port) collector.counters +
          if addition.counts direction q then addition.bytes else 0 := by
    intro direction q
    exact tally_countIn (fun direction => by cases direction <;> rfl) fits direction q
  refine ⟨fun c => ?_, fun direction q => ?_, books.harvested⟩
  · by_cases same : addition.collector = c
    · subst same
      refine ⟨grow collector, ?_, fun direction q => ?_⟩
      · rw [Metering.collectors_step_add, List.getElem?_modify_eq, here]
        rfl
      · rw [grown, held, Docket.pending_step_add, tally_concat, decide_eq_true rfl, Bool.true_and]
    · obtain ⟨other, there, tallies⟩ := books.counters c
      refine ⟨other, ?_, fun direction q => ?_⟩
      · rw [Metering.collectors_step_add,
          List.getElem?_modify_ne _ _ fun equal => same (Fin.ext equal), there]
      · rw [tallies, Docket.pending_step_add, tally_concat, decide_eq_false same]
        rfl
  · rw [Metering.collectors_step_add, tally_flatMap_modify _ here (grown direction q),
      Docket.pending_step_add, tally_concat, books.whole]

/-- Looking at samples neither adds nor moves any. -/
theorem tick (books : Books metering docket) (desk : Nat) (id : Uuid) (now : Int64) :
    Books (metering.step (.tick desk id now : Happening n)) (docket.step (.tick desk id now)) :=
  ⟨books.counters, books.whole, books.harvested⟩

/-- With fresh collectors the books begin empty. -/
theorem create {collectors : List Collector}
    (fresh : ∀ collector ∈ collectors, collector.counters = []) (settings : StoreSettings)
    (sessions : List Session) (interval : Nat) :
    Books (.create collectors settings sessions interval)
      (Docket.of ([] : List (Happening collectors.length))) := by
  refine ⟨fun c => ?_, fun direction q => ?_, fun direction q => rfl⟩
  · refine ⟨collectors[c.val], List.getElem?_eq_getElem c.isLt, fun direction q => ?_⟩
    rw [fresh _ (List.getElem_mem c.isLt)]
    rfl
  · have none : (Metering.create collectors settings sessions interval).store.collectors.flatMap
        Collector.counters = [] := List.flatMap_eq_nil_iff.mpr fresh
    rw [none]
    rfl

/-- The books are right at every moment of a run in which no counter overflows. -/
theorem after {start : Metering} (books : Books start (Docket.of ([] : List (Happening n))))
    {run : List (Happening n)} (bounded : CountersExact run) {earlier : List (Happening n)}
    (front : earlier <+: run) : Books (start.after earlier) (Docket.of earlier) := by
  induction earlier using List.reverseRecOn with
  | nil => exact books
  | append_singleton earlier last ih =>
      have before := ih ((List.prefix_append _ _).trans front)
      rw [Metering.after_concat, Docket.of_concat]
      cases last with
      | add addition =>
          apply before.add
          have room := bounded _ front addition.collector addition.ip addition.port
            addition.direction
          rw [Docket.of_concat] at room
          exact room
      | harvest now => exact before.harvest now
      | tick desk id now => exact before.tick desk id now

end Books

/-! ### The samples in the store -/

/-- The series is sorted, and all that it holds was harvested. -/
structure Stock (metering : Metering) : Prop where
  sorted : metering.store.series.Sorted
  drawn : metering.store.series.toList.Subperm metering.harvested

namespace Stock

/-- A merge keeps the order and takes in harvested samples only; nothing else touches the series. -/
theorem step {metering : Metering} (stock : Stock metering) (happening : Happening n) :
    Stock (metering.step happening) := by
  cases happening with
  | add addition => exact ⟨stock.sorted, stock.drawn⟩
  | harvest now =>
      constructor <;> rw [Metering.series_step_harvest]
      · exact Series.merge_sorted stock.sorted _
      · exact (Series.merge_subperm _ _).trans (stock.drawn.append (List.Subperm.refl _))
  | tick desk id now => exact ⟨stock.sorted, stock.drawn⟩

theorem after {start : Metering} (stock : Stock start) (run : List (Happening n)) :
    Stock (start.after run) := by
  induction run generalizing start with
  | nil => exact stock
  | cons happening later ih => exact ih (stock.step happening)

/-- The samples harvested are those held and those lost. -/
theorem perm {metering : Metering} (stock : Stock metering) :
    (metering.store.series.toList ++ metering.harvested.diff metering.store.series.toList).Perm
      metering.harvested :=
  List.subperm_append_diff_self_of_count_le fun sample _ => stock.drawn.count_le sample

end Stock

/-! ### Runs in which nothing overflows or is lost -/

def Happening.addition? : Happening n → Option (Addition n)
  | .add addition => some addition
  | .harvest _ => none
  | .tick _ _ _ => none

/-- The docket holds all additions of a run, in their order. -/
theorem Docket.additions (run : List (Happening n)) :
    (Docket.of run).exported.map Exported.addition ++ (Docket.of run).pending =
      run.filterMap Happening.addition? := by
  induction run using List.reverseRecOn with
  | nil => rfl
  | append_singleton earlier last ih =>
      rw [Docket.of_concat, List.filterMap_append, ← ih]
      cases last with
      | add addition => exact (List.append_assoc _ _ _).symm
      | harvest now =>
          rw [Docket.exported_step_harvest, Docket.pending_step_harvest, List.map_append,
            List.map_map, List.append_nil]
          exact (congrArg (_ ++ ·) (List.map_id _)).trans (List.append_nil _).symm
      | tick desk id now => exact (List.append_nil _).symm

def bytesAdded (run : List (Happening n)) : Nat :=
  tally Addition.bytes (fun _ => true) (run.filterMap Happening.addition?)

/-- More happenings add no fewer bytes. -/
theorem bytesAdded_mono {earlier run : List (Happening n)} (front : earlier <+: run) :
    bytesAdded earlier ≤ bytesAdded run :=
  tally_le _ _ (front.filterMap _).sublist.subperm

/-- No more is pending than was added. -/
theorem tally_pending_le (p : Addition n → Bool) (run : List (Happening n)) :
    tally Addition.bytes p (Docket.of run).pending ≤ bytesAdded run := by
  rw [bytesAdded, ← Docket.additions]
  exact tally_le _ _ (List.sublist_append_right _ _).subperm

/-- Nor is more exported than that. -/
theorem tally_exported_le (p : Addition n → Bool) (run : List (Happening n)) :
    tally (fun entry => entry.addition.bytes) (fun entry => p entry.addition)
      (Docket.of run).exported ≤ bytesAdded run := by
  rw [bytesAdded, ← Docket.additions, ← tally_map Addition.bytes p Exported.addition]
  exact tally_le _ _ (List.sublist_append_left _ _).subperm

/-- If all additions together fit in a counter, no counter ever overflows. -/
theorem CountersExact.of_bytesAdded {run : List (Happening n)}
    (small : bytesAdded run ≤ largestCount) : CountersExact run := by
  intro earlier front collector ip port direction
  exact Nat.le_trans (tally_pending_le _ earlier) (Nat.le_trans (bytesAdded_mono front) small)

/-- What was harvested stays so. -/
theorem Metering.length_harvested_mono (metering : Metering) {earlier run : List (Happening n)}
    (front : earlier <+: run) :
    (metering.after earlier).harvested.length ≤ (metering.after run).harvested.length := by
  obtain ⟨later, rfl⟩ := front
  rw [Metering.after, Metering.after, List.foldl_append]
  generalize earlier.foldl step metering = reached
  induction later generalizing reached with
  | nil => exact Nat.le_refl _
  | cons happening further ih =>
      refine Nat.le_trans ?_ (ih (reached.step happening))
      cases happening with
      | add addition => exact Nat.le_refl _
      | harvest now =>
          rw [Metering.harvested_step_harvest, List.length_append]
          exact Nat.le_add_right _ _
      | tick desk id now => exact Nat.le_refl _

/-- A series with room for all samples that are ever harvested holds them all. -/
theorem Metering.holds_harvested {first : Metering}
    (full : first.store.series.toList.Perm first.harvested) {run : List (Happening n)}
    (room : (first.after run).harvested.length ≤ first.store.series.capacity)
    {earlier : List (Happening n)} (front : earlier <+: run) :
    (first.after earlier).store.series.toList.Perm (first.after earlier).harvested ∧
      (first.after earlier).store.series.capacity = first.store.series.capacity := by
  induction earlier using List.reverseRecOn with
  | nil => exact ⟨full, rfl⟩
  | append_singleton earlier last ih =>
      have bounded := Nat.le_trans (first.length_harvested_mono front) room
      obtain ⟨held, capacity⟩ := ih ((List.prefix_append _ _).trans front)
      rw [after_concat] at bounded ⊢
      cases last with
      | add addition => exact ⟨held, capacity⟩
      | harvest now =>
          have fits : (first.after earlier).store.series.toList.length +
              ((first.after earlier).store.batch now).length ≤
              (first.after earlier).store.series.capacity := by
            rw [capacity, held.length_eq, ← List.length_append]
            exact bounded
          rw [series_step_harvest, harvested_step_harvest]
          exact ⟨(Series.merge_perm_of_room fits).trans (held.append_right _),
            (Series.capacity_merge _ _).trans capacity⟩
      | tick desk id now => exact ⟨held, capacity⟩

end TrafficMeter
