import WalletEvents.Context
import WalletEvents.Activity

/-!
# What all parts share

Handlers, hooks and plugins run in one surrounding: they share a context and a stop signal, and beyond
these a world of their own, which nothing here looks into.

A stop may also come from outside, at a moment that is known beforehand.
-/

namespace WalletEvents

/-- A context and a stop signal in a world. -/
structure Shared (ω : Type) where
  context : Context
  stopped : Bool
  world : ω

/-- What happens to the stop signal from outside: at a time it is raised, or else its handles are dropped,
which ends all waiting but leaves the signal as it is. -/
structure OutsideStop where
  time : Nat
  raises : Bool
  deriving DecidableEq

/-- What will happen to the stop signal from outside, if anything does. -/
abbrev StopMoment := Option OutsideStop

namespace Shared

variable {ω α : Type}

/-- Whether the stop signal is raised at a time. -/
def isStopped (moment : StopMoment) (t : Nat) (s : Shared ω) : Bool :=
  s.stopped || moment.any fun m => m.raises && m.time ≤ t

/-- Whether waiting for the stop signal ends at once at a time. -/
def isReleased (moment : StopMoment) (t : Nat) (s : Shared ω) : Bool :=
  s.stopped || moment.any fun m => m.time ≤ t

/-- Raises the stop signal. -/
def stop (s : Shared ω) : Shared ω := { s with stopped := true }

/-- Whether the stop signal is raised now. -/
def stopRequested (moment : StopMoment) : Activity (Shared ω) Bool :=
  .modifyGet fun t s => (s.isStopped moment t, s)

/-- Whether waiting for the stop signal ends now. -/
def released (moment : StopMoment) : Activity (Shared ω) Bool :=
  .modifyGet fun t s => (s.isReleased moment t, s)

/-- Waits for the stop signal, but no longer than the given time; tells whether waiting for the signal has
ended. The signal is looked at in every unit of time, so that a stop from the background is seen at once. -/
def pauseUnlessStopped (moment : StopMoment) : Nat → Activity (Shared ω) Bool
  | 0 => released moment
  | time + 1 => do
    if ← released moment then return true
    Activity.pause 1
    pauseUnlessStopped moment time

/-- Waits for the stop signal; tells whether waiting has ended. If nothing comes from outside it is given up
after a time. -/
def untilStopped (moment : StopMoment) (patience : Nat) : Activity (Shared ω) Bool := do
  let left ← .modifyGet fun t s => (moment.elim patience fun m => m.time - t, s)
  pauseUnlessStopped moment left

end Shared

end WalletEvents
