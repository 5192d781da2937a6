/-
Module: TrafficMeter.Clock
Purpose: Let time pass for a system whose loops wake at known moments.  Moments are milliseconds
  since the system came up.
Main exports: Clock, Clock.now, Clock.wallAt, wakeUntil, passTime
-/

namespace TrafficMeter

/-- A clock: the wall time at which the system came up, in Unix milliseconds, and the moment
reached since. -/
structure Clock where
  origin : Int64
  moment : Nat := 0
deriving DecidableEq, Repr, Inhabited

/-- The wall time of a moment, in Unix milliseconds. -/
def Clock.wallAt (clock : Clock) (moment : Nat) : Int64 :=
  clock.origin + Int64.ofNat moment

/-- The wall time. -/
def Clock.now (clock : Clock) : Int64 :=
  clock.wallAt clock.moment

/-- Wake a system at each moment at which it is due, up to and including `stop`, at most `limit`
times. -/
def wakeUntil {σ : Type} (due? : σ → Option Nat) (wake : σ → Nat → σ) (stop : Nat) :
    Nat → σ → σ
  | 0, system => system
  | limit + 1, system =>
      match due? system with
      | some moment =>
          if moment ≤ stop then wakeUntil due? wake stop limit (wake system moment) else system
      | none => system

/-- Let time pass from moment `start` to moment `stop`.  A loop that was woken is due again at a
later moment, so the system wakes at most once in each millisecond.  A wait of no time is over
before any loop gets its turn: what is due stays due, and goes on in the next wait. -/
def passTime {σ : Type} (due? : σ → Option Nat) (wake : σ → Nat → σ) (start stop : Nat)
    (system : σ) : σ :=
  if start < stop then wakeUntil due? wake stop (stop - start + 1) system else system

end TrafficMeter
