/-
Module: TrafficMeter.Usage.Store
Purpose: Harvest the counters of several collectors into one bounded series, at an interval, and
  answer range questions about it.
Main exports: Store, Store.create, Store.batchBy, Store.harvestBy, Store.harvest, Store.query,
  Store.start, Store.stop, Store.letGo, Store.due?, Store.run
-/
import TrafficMeter.Usage.Collector
import TrafficMeter.Usage.Series

namespace TrafficMeter.Usage

/-- How many samples are kept and how often they are harvested. -/
structure StoreSettings where
  capacity : Nat := 4000
  harvestIntervalSecs : UInt64 := 5
deriving DecidableEq, Repr, Inhabited

/-- Collectors with the history of what they counted. -/
structure Store where
  collectors : List Collector
  series : Series
  /-- milliseconds between two harvests -/
  interval : Nat
  /-- for each harvest loop, the moment of its next harvest -/
  loops : List Nat := []
  /-- the same for each harvest loop that was told to end and has had no turn since -/
  leaving : List Nat := []
  cancelled : Bool := false
deriving Repr, Inhabited

namespace Store

/-- A store over some collectors, which has harvested nothing yet. -/
def create (collectors : List Collector) (settings : StoreSettings) : Store :=
  { collectors
    series := Series.empty settings.capacity
    interval := max settings.harvestIntervalSecs.toNat 1 * 1000 }

/-- The samples that a harvest takes out of the collectors.  They are asked one after another, and
each of them looks at the clock: it shows `clock index` to the collector at `index`. -/
def batchBy (store : Store) (clock : Nat → Int64) : List Sample :=
  (store.collectors.mapIdx fun index collector => (collector.exportAt (clock index)).1).flatten

/-- Take the counters out of all collectors and add them to the history.  The number of samples taken
comes first. -/
def harvestBy (store : Store) (clock : Nat → Int64) : Nat × Store :=
  let batch := store.batchBy clock
  (batch.length,
    { store with
      collectors :=
        store.collectors.mapIdx fun index collector => (collector.exportAt (clock index)).2
      series := store.series.merge batch })

/-- A harvest during which the clock stands still. -/
def harvest (store : Store) (now : Int64) : Nat × Store :=
  store.harvestBy fun _ => now

/-- The samples of a range of window ends that satisfy `p`, oldest first. -/
def query (store : Store) (p : Sample → Bool) (start stop : Int64) : List Sample :=
  (store.series.search start stop).filter p

/-- The number of samples held. -/
def size (store : Store) : Nat :=
  store.series.size

def modifyCollector (store : Store) (index : Nat) (f : Collector → Collector) : Store :=
  { store with collectors := store.collectors.modify index f }

/-- Start a harvest loop, whose first harvest is due at once.  In a store that was stopped the loop is
told to end before it begins. -/
def start (store : Store) (moment : Nat) : Store :=
  if store.cancelled then { store with leaving := store.leaving ++ [moment] }
  else { store with loops := store.loops ++ [moment] }

/-- Tell all harvest loops to end, for good, and forget the history. -/
def stop (store : Store) : Store :=
  { store with
    series := store.series.clear
    loops := []
    leaving := store.leaving ++ store.loops
    cancelled := true }

/-- Give its turn to the loop that was told to end first.  It ends; but if its next harvest is due by
then, there are two things to go on with, and it may harvest once before it looks again.  `harvests`
says whether it does. -/
def letGo (store : Store) (harvests : Bool) (moment : Nat) (clock : Nat → Int64) : Store :=
  match store.leaving with
  | [] => store
  | due :: leaving =>
      let left := { store with leaving }
      if harvests && due ≤ moment then (left.harvestBy clock).2 else left

/-- The earliest moment at which a harvest loop is due. -/
def due? (store : Store) : Option Nat :=
  store.loops.min?

/-- Let every harvest loop that is due harvest once; each is due again one interval later.  Loops that
were told to end do so without another harvest. -/
def run (store : Store) (moment : Nat) (now : Int64) : Store :=
  let ready := (store.loops.filter (· ≤ moment)).length
  let harvested := Nat.repeat (fun store => (store.harvest now).2) ready store
  { harvested with
    loops := store.loops.map fun due => if due ≤ moment then moment + store.interval else due
    leaving := [] }

end Store

end TrafficMeter.Usage
