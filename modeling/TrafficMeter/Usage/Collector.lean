/-
Module: TrafficMeter.Usage.Collector
Purpose: Count the bytes of captured frames at one interface, one counter per remote endpoint,
  and hand the counters out window by window.
Main exports: Collector, Collector.count, Collector.observe, Collector.exportAt, CaptureError,
  Collector.start, Collector.stop, CaptureEvent, Collector.receive
-/
import TrafficMeter.Net.Filter.Reader
import TrafficMeter.Net.Interface
import TrafficMeter.Usage.Sample

namespace TrafficMeter.Usage

open Net

/-- What can go wrong with capturing. -/
inductive CaptureError where
  | openFailed (reason : String)
  | invalidFilter (reason : String)
  | interfaceDiscovery (reason : String)
  | unsupported
  | readFailed (reason : String)
deriving DecidableEq, Repr

def CaptureError.message : CaptureError → String
  | .openFailed reason => s!"Capture open failed: {reason}"
  | .invalidFilter reason => s!"Invalid capture filter: {reason}"
  | .interfaceDiscovery reason => s!"Interface discovery failed: {reason}"
  | .unsupported => "Packet capture is not supported on this platform"
  | .readFailed reason => s!"Packet read failed: {reason}"

/-- How frames are captured: the filter text, the interfaces wanted (all if none is named), how
long a read waits and how much of a frame is kept. -/
structure CaptureSettings where
  filter : String := Filter.standardText
  interfaces : List String := []
  readTimeoutMs : UInt64 := 1000
  snapshotLength : Nat := 65535
deriving DecidableEq, Repr, Inhabited

/-- Read a filter text; a text that cannot be read is a capture error. -/
def compileFilter (text : String) : Except CaptureError Filter :=
  (Filter.read text).mapError fun error => .invalidFilter error.message

/-- The counters of one interface. -/
structure Collector where
  interface : Interface
  settings : CaptureSettings
  /-- one counter per endpoint, in the order of first use -/
  counters : List Sample := []
  /-- the start of the window that is being counted -/
  lastExport : Int64
  /-- a capture loop was started and not taken down by a first stop -/
  started : Bool := false
  /-- a stop was asked for, which holds for good -/
  cancelled : Bool := false
  /-- the filter of the capture loop, while it reads frames -/
  reading : Option Filter := none
deriving Repr, Inhabited

namespace Collector

/-- A collector that has counted nothing yet. -/
def create (interface : Interface) (settings : CaptureSettings) (now : Int64) : Collector :=
  { interface, settings, lastExport := now }

/-- Count bytes in the counter of an endpoint within a list of counters; an endpoint that has none
gets `fresh`. -/
def countIn (fresh : Sample) (length : UInt64) (direction : Direction) :
    List Sample → List Sample
  | [] => [fresh.add length direction]
  | counter :: others =>
      if counter.isOf fresh.ip fresh.port then counter.add length direction :: others
      else counter :: countIn fresh length direction others

/-- A counter at zero whose window starts with the current one. -/
def fresh (collector : Collector) (ip : IpAddress) (port : UInt16) : Sample where
  hardware := collector.interface.address
  ip
  port
  up := 0
  down := 0
  windowStart := collector.lastExport
  windowEnd := collector.lastExport

/-- Count bytes exchanged with a remote endpoint. -/
def count (collector : Collector) (length : UInt64) (ip : IpAddress) (port : UInt16)
    (direction : Direction) : Collector :=
  { collector with
    counters := countIn (collector.fresh ip port) length direction collector.counters }

/-- Which endpoint a flow counts for, and in which direction: what is sent to the interface came
down from its source, and what the interface sends goes up to its target. -/
def endpoint? (interface : Interface) (flow : Flow) : Option (IpAddress × UInt16 × Direction) :=
  if flow.targetHardware = interface.address then some (flow.source, flow.sourcePort, .down)
  else if flow.sourceHardware = interface.address then some (flow.target, flow.targetPort, .up)
  else none

/-- Count a captured frame in full length, if it is a flow that the filter accepts and the
interface takes part in. -/
def observe (collector : Collector) (filter : Filter) (frame : Bytes) : Collector :=
  match Flow.ofFrame? frame with
  | none => collector
  | some flow =>
      if filter.holds flow then
        match endpoint? collector.interface flow with
        | some (ip, port, direction) =>
            collector.count (UInt64.ofNat frame.length) ip port direction
        | none => collector
      else collector

/-- Hand out every counter with `now` as the end of its window, and start a new window. -/
def exportAt (collector : Collector) (now : Int64) : List Sample × Collector :=
  (collector.counters.map fun counter => { counter with windowEnd := now },
    { collector with counters := [], lastExport := now })

/-- Start capturing, given whether the interface can be opened.  A collector that was started
before stays as it is; one that was stopped for good ends its loop at once. -/
def start (collector : Collector) (opened : Except CaptureError Unit) :
    Except CaptureError Collector := do
  if collector.started then return collector
  let filter ← compileFilter collector.settings.filter
  opened
  return { collector with
    started := true
    reading := if collector.cancelled then none else some filter }

/-- Stop capturing for good. -/
def stop (collector : Collector) : Collector :=
  if collector.cancelled then collector
  else { collector with cancelled := true, started := false, reading := none }

/-- What an open capture handle may deliver. -/
inductive CaptureEvent where
  | frame (bytes : Bytes)
  | readError
  | breakdown
deriving DecidableEq, Repr

/-- Deal with one event of the capture handle.  A frame is cut to the kept length; a failed read
is passed over; a breakdown ends the loop, which nothing restarts. -/
def receive (collector : Collector) (event : CaptureEvent) : Collector :=
  match collector.reading, event with
  | none, _ => collector
  | some filter, .frame bytes =>
      collector.observe filter (bytes.take collector.settings.snapshotLength)
  | some _, .readError => collector
  | some _, .breakdown => { collector with reading := none }

end Collector

end TrafficMeter.Usage
