/-
Module: TrafficMeter.Agent
Purpose: Start and end the reporting of sessions.  The first session brings up capture on every
  interface that can be opened; with the last one capture ends.
Main exports: AgentError, Backend, Agent, Agent.startReport, Agent.endReport, Agent.deregister,
  Agent.shutdown, Agent.activeSessions, Agent.isCapturing, Agent.feed
-/
import TrafficMeter.Station

namespace TrafficMeter

open Delivery Net Usage

/-- Why the reporting of a session could not be started. -/
inductive AgentError where
  | capture (error : CaptureError)
  | noInterfaces
deriving DecidableEq, Repr

def AgentError.message : AgentError → String
  | .capture error => s!"Capture error: {error.message}"
  | .noInterfaces => "No capturable network interface found"

/-- What the system offers for capturing. -/
structure Backend where
  /-- the interfaces, or why they cannot be listed -/
  interfaces : Except CaptureError (List Interface)
  /-- the names of interfaces that cannot be opened -/
  failing : List String := []
deriving Inhabited

/-- The interfaces that the settings want. -/
def Backend.list (backend : Backend) (settings : CaptureSettings) :
    Except CaptureError (List Interface) :=
  backend.interfaces.map fun all =>
    all.filter fun interface => wants settings.interfaces interface.name

/-- Open an interface for capturing. -/
def Backend.open (backend : Backend) (interface : Interface) : Except CaptureError Unit :=
  if backend.failing.contains interface.name then
    .error (.openFailed (interface.name ++ ": no such device"))
  else .ok ()

/-- What the agent needs to know to bring up capture and reporting. -/
structure AgentSettings where
  capture : CaptureSettings := {}
  store : StoreSettings := {}
  delivery : DeliverySettings := {}
deriving DecidableEq, Repr, Inhabited

/-- The sessions that are reported, and the capture that serves them. -/
structure Agent where
  settings : AgentSettings
  backend : Backend
  station : Station
  /-- for each session that is reported, the number of its reporter -/
  registry : List (SessionKey × Nat) := []
  /-- the number of the store that is being filled -/
  engine : Option Nat := none
deriving Inhabited

namespace Agent

def isCapturing (agent : Agent) : Bool :=
  agent.engine.isSome

/-- The keys of the sessions that are reported, in order. -/
def activeSessions (agent : Agent) : List SessionKey :=
  (agent.registry.map Prod.fst).mergeSort SessionKey.atMost

/-- The number of the reporter that is registered under a key. -/
def reporterOf? (agent : Agent) (key : SessionKey) : Option Nat :=
  agent.registry.lookup key

/-! ### Capture -/

/-- The collectors of those interfaces that can be opened, each with its capture started. -/
def openCollectors (agent : Agent) (interfaces : List Interface) : List Collector :=
  interfaces.filterMap fun interface =>
    ((Collector.create interface agent.settings.capture agent.station.now).start
      (agent.backend.open interface)).toOption

/-- Bring up capture: a new store over every interface that can be opened, harvested from now on.
The number of the store comes first. -/
def startEngine (agent : Agent) : Except AgentError (Nat × Agent) := do
  let _ ← (compileFilter agent.settings.capture.filter).mapError .capture
  let interfaces ← (agent.backend.list agent.settings.capture).mapError .capture
  let collectors := agent.openCollectors interfaces
  if collectors.isEmpty then throw .noInterfaces
  let number := agent.station.stores.length
  let store := (Store.create collectors agent.settings.store).start agent.station.clock.moment
  return (number, { agent with station := agent.station.addStore store, engine := some number })

/-- Take capture down: every collector of the store stops, and the store forgets its samples. -/
def stopEngine (agent : Agent) : Agent :=
  match agent.engine with
  | none => agent
  | some number =>
      { agent with
        engine := none
        station := agent.station.modifyStore number fun store =>
          { store with collectors := store.collectors.map Collector.stop }.stop }

/-! ### Sessions -/

/-- Forget the reporter of the given number, if it is still the one registered under the key; with
the last reporter capture ends. -/
def deregister (agent : Agent) (key : SessionKey) (number : Nat) : Agent :=
  if agent.reporterOf? key = some number then
    let remaining := agent.registry.filter fun entry => entry.1 != key
    let agent := { agent with registry := remaining }
    if remaining.isEmpty then agent.stopEngine else agent
  else agent

/-- Stop a reporter, which then deregisters; one that was stopped before does nothing. -/
def stopReporter (agent : Agent) (number : Nat) : Agent :=
  match agent.station.reporters[number]? with
  | none => agent
  | some reporter =>
      if reporter.status = .stopped then agent
      else
        { agent with station := agent.station.modifyReporter number Reporter.stop }.deregister
          reporter.session.key number

/-- Register and start a new reporter for a session, on a capture that is brought up if need
be. -/
def startReporter (agent : Agent) (session : Session) : Except AgentError Agent := do
  let (store, agent) ← match agent.engine with
    | some number => .ok (number, agent)
    | none => agent.startEngine
  let interval := agent.settings.delivery.reportIntervalSecs.toNat * 1000
  let number := agent.station.reporters.length
  let reporter := (Reporter.create session store interval).start agent.station.clock.moment
  return { agent with
    station := agent.station.addReporter reporter
    registry := agent.registry ++ [(session.key, number)] }

/-- Start reporting a session.  A reporter that runs under the same key is replaced, and stopped
once it is no longer registered, so that capture stays up. -/
def startReport (agent : Agent) (session : Session) : Except AgentError Unit × Agent :=
  let key := session.key
  let replaced := agent.reporterOf? key
  let cleared := { agent with registry := agent.registry.filter fun entry => entry.1 != key }
  let (result, started) :=
    match cleared.startReporter session with
    | .ok started => (.ok (), started)
    | .error error => (.error error, cleared)
  (result, replaced.elim started started.stopReporter)

def endReport (agent : Agent) (key : SessionKey) : Agent :=
  (agent.reporterOf? key).elim agent agent.stopReporter

/-- End the reporting of every session and take capture down. -/
def shutdown (agent : Agent) : Agent :=
  let numbers := agent.registry.map Prod.snd
  (numbers.foldl stopReporter { agent with registry := [] }).stopEngine

/-! ### Frames -/

/-- Give an event to the capture handle that was opened last on an interface. -/
def feed (agent : Agent) (name : String) (event : Collector.CaptureEvent) : Agent :=
  let holders := agent.station.stores.zipIdx.flatMap fun (store, number) =>
    store.collectors.zipIdx.filterMap fun (collector, index) =>
      if collector.interface.name = name then some (number, index) else none
  match holders.getLast? with
  | none => agent
  | some (number, index) =>
      { agent with
        station := agent.station.modifyStore number fun store =>
          store.modifyCollector index fun collector => collector.receive event }

end Agent

end TrafficMeter
