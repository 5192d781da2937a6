/-
Module: TrafficMeter.Reporter
Purpose: Report a session's usage at an interval, window after window, so that no sample is
  reported twice.
Main exports: Reporter, Reporter.create, Reporter.tick, Reporter.start, Reporter.stop
-/
import TrafficMeter.Report
import TrafficMeter.Usage.Store

namespace TrafficMeter

open Usage

/-- Where a reporter is in its life. -/
inductive Reporter.Status where
  | created
  | running
  | stopped
deriving DecidableEq, Repr, Inhabited

/-- Reports the usage of one session. -/
structure Reporter where
  session : Session
  /-- the number of the store that is asked for samples -/
  store : Nat
  /-- milliseconds between two ticks -/
  interval : Nat
  /-- the end of the last window that held samples, in Unix milliseconds -/
  lastSampleTime : Int64
  /-- the number of the next report -/
  sequence : UInt32 := 0
  status : Reporter.Status := .created
  /-- the moment of the next tick -/
  due : Option Nat := none
deriving Repr, Inhabited

namespace Reporter

/-- A reporter that was not started yet; its first window begins with the session. -/
def create (session : Session) (store interval : Nat) : Reporter where
  session
  store
  interval
  lastSampleTime := Int64.ofInt session.startTime.millis

/-- The usage that samples show: all of them, and those on stream ports. -/
def usageOf (session : Session) (samples : List Sample) : SessionUsage where
  total := Totals.of samples
  stream := Totals.of (samples.filter fun sample => session.acceptsPort sample.port)

/-- Look at the samples that ended since the last window and before `now`.  If there are any, the
window moves on to `now`, and if bytes went over stream ports, they are reported under the given
identifier. -/
def tick (reporter : Reporter) (store : Store) (id : Uuid) (now : Int64) :
    Option Report × Reporter :=
  let session := reporter.session
  let samples := store.query (fun sample => session.acceptsIp sample.ip) reporter.lastSampleTime now
  if samples.isEmpty then (none, reporter)
  else
    let moved := { reporter with lastSampleTime := now }
    let usage := usageOf session samples
    if usage.total.isSilent || usage.stream.isSilent then (none, moved)
    else
      (some (Report.create id session reporter.lastSampleTime now usage reporter.sequence),
        { moved with sequence := reporter.sequence + 1 })

/-- Start ticking, one interval from the given moment; only a reporter that is new can be
started. -/
def start (reporter : Reporter) (moment : Nat) : Reporter :=
  if reporter.status = .created then
    { reporter with
      status := .running
      due := if reporter.interval = 0 then none else some (moment + reporter.interval) }
  else reporter

/-- Stop for good. -/
def stop (reporter : Reporter) : Reporter :=
  { reporter with status := .stopped, due := none }

def isDue (reporter : Reporter) (moment : Nat) : Bool :=
  reporter.due.any (· ≤ moment)

end Reporter

end TrafficMeter
