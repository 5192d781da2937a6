/-
Module: TrafficMeter.Station
Purpose: Stores, reporters and the depot of their reports, running side by side under one clock.
  Whoever asked for one of them knows it by its number, which stays the same for good.
Main exports: Station, Station.addStore, Station.addReporter, Station.tick, Station.wake,
  Station.advance, Station.startDelivery, Station.stopDelivery
-/
import TrafficMeter.Clock
import TrafficMeter.Delivery.Depot
import TrafficMeter.Reporter

namespace TrafficMeter

open Delivery Spool Usage

/-- Everything that runs in the background. -/
structure Station where
  clock : Clock
  stores : List Store := []
  reporters : List Reporter := []
  depot : Depot Report
  /-- the number of report identifiers used up -/
  issued : Nat := 0
deriving Inhabited

namespace Station

/-- The wall time. -/
def now (station : Station) : Int64 :=
  station.clock.now

/-! ### Stores -/

def addStore (station : Station) (store : Store) : Station :=
  { station with stores := station.stores ++ [store] }

def modifyStore (station : Station) (number : Nat) (f : Store → Store) : Station :=
  { station with stores := station.stores.modify number f }

/-- Harvest a store; the number of samples comes first. -/
def harvest (station : Station) (number : Nat) : Nat × Station :=
  let count := (station.stores[number]?).elim 0 fun store => (store.harvest station.now).1
  (count, station.modifyStore number fun store => (store.harvest station.now).2)

/-! ### Reporters -/

def addReporter (station : Station) (reporter : Reporter) : Station :=
  { station with reporters := station.reporters ++ [reporter] }

def modifyReporter (station : Station) (number : Nat) (f : Reporter → Reporter) : Station :=
  { station with reporters := station.reporters.modify number f }

/-- Let a reporter tick as of the given wall time; whether it reported comes first. -/
def tick (station : Station) (number : Nat) (now : Int64) : Bool × Station :=
  match station.reporters[number]? with
  | none => (false, station)
  | some reporter =>
      let store := (station.stores[reporter.store]?).getD default
      let (report?, moved) := reporter.tick store (Uuid.ofRandom station.issued) now
      let station := station.modifyReporter number fun _ => moved
      match report? with
      | none => (false, station)
      | some report =>
          (true, { station with
            depot := station.depot.add report
            issued := station.issued + 1 })

/-- Let a reporter tick if it is due; its next tick is due one interval later. -/
def tickIfDue (moment : Nat) (station : Station) (number : Nat) : Station :=
  match station.reporters[number]? with
  | none => station
  | some reporter =>
      if reporter.isDue moment then
        (station.tick number (station.clock.wallAt moment)).2.modifyReporter number fun reporter =>
          { reporter with due := some (moment + reporter.interval) }
      else station

/-! ### Background loops -/

/-- The earliest moment at which something is due. -/
def due? (station : Station) : Option Nat :=
  (station.stores.filterMap Store.due? ++ station.reporters.filterMap Reporter.due ++
    station.depot.due?.toList).min?

/-- Let everything that is due go on: harvests, then ticks, then deliveries. -/
def wake (station : Station) (moment : Nat) : Station :=
  let now := station.clock.wallAt moment
  let harvested := { station with stores := station.stores.map fun store => store.run moment now }
  let ticked := (List.range station.reporters.length).foldl (tickIfDue moment) harvested
  { ticked with depot := ticked.depot.wake moment }

/-- Let everything that is due by now go on. -/
def catchUp (station : Station) : Station :=
  station.wake station.clock.moment

/-- Let time pass. -/
def advance (station : Station) (milliseconds : Nat) : Station :=
  let start := station.clock.moment
  let stop := start + milliseconds
  let passed := passTime due? wake start stop station
  { passed with clock.moment := stop }

/-! ### Delivery -/

def startDelivery (station : Station) : Except StorageError Station := do
  return { station with depot := ← station.depot.start station.clock.moment }

/-- Stop delivering reports.  While the delivery loop ends, the other loops that are due go on. -/
def stopDelivery (station : Station) : Except StorageError Unit × Station :=
  if station.depot.outbox.running then
    let waited := { station with depot := station.depot.cancel }.catchUp
    let (result, depot) := waited.depot.persist
    (result, { waited with depot })
  else (.ok (), station)

end Station

end TrafficMeter
