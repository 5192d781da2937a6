/-
Module: TrafficMeter.Usage.Sample
Purpose: Byte counts of one remote endpoint over one window of time, and their sums.  A count that
  would pass the largest 64-bit number stays there.
Main exports: addSaturating, Direction, Sample, Sample.add, Sample.total, Totals, Totals.of
-/
import TrafficMeter.Net.HardwareAddress
import TrafficMeter.Net.IpAddress

namespace TrafficMeter.Usage

open Net

def largestCount : Nat := 18446744073709551615

/-- The sum of two counts, or the largest count where the sum would pass it. -/
def addSaturating (a b : UInt64) : UInt64 :=
  UInt64.ofNat (min largestCount (a.toNat + b.toNat))

/-- Whether bytes leave the interface or arrive at it. -/
inductive Direction where
  | up
  | down
deriving DecidableEq, Repr, Inhabited

/-- The bytes counted for one remote endpoint at one interface in the window that ends before
`windowEnd`.  Times are Unix milliseconds. -/
structure Sample where
  hardware : HardwareAddress
  ip : IpAddress
  port : UInt16
  up : UInt64
  down : UInt64
  windowStart : Int64
  windowEnd : Int64
deriving DecidableEq, Repr, Inhabited

namespace Sample

/-- Count further bytes. -/
def add (sample : Sample) (length : UInt64) : Direction → Sample
  | .up => { sample with up := addSaturating sample.up length }
  | .down => { sample with down := addSaturating sample.down length }

/-- The bytes of both directions together. -/
def total (sample : Sample) : UInt64 :=
  addSaturating sample.up sample.down

/-- Whether a sample counts the given endpoint. -/
def isOf (ip : IpAddress) (port : UInt16) (sample : Sample) : Bool :=
  sample.ip == ip && sample.port == port

end Sample

/-- Bytes by direction. -/
structure Totals where
  up : UInt64 := 0
  down : UInt64 := 0
deriving DecidableEq, Repr, Inhabited

/-- The bytes of a list of samples by direction. -/
def Totals.of (samples : List Sample) : Totals :=
  samples.foldl
    (fun totals sample =>
      { up := addSaturating totals.up sample.up
        down := addSaturating totals.down sample.down })
    {}

/-- Whether no byte went in either direction. -/
def Totals.isSilent (totals : Totals) : Bool :=
  addSaturating totals.up totals.down == 0

end TrafficMeter.Usage
