import WalletEvents.Polling.Poller
import WalletEvents.Shared

/-!
# The polling loop

Ticks follow one another until the stop signal is raised. After a tick that went well the loop pauses
for the time between ticks, after one that failed for the longer backoff time; the stop signal ends a
pause, but never a tick.
-/

namespace WalletEvents

namespace Poller

variable {ω : Type}

def pauseAfter (config : PollingConfig) (result : Except Failure TickReport) : Nat :=
  match result with
  | .ok _ => config.refetchTimeout.milliseconds
  | .error _ => config.backoffTimeout.milliseconds

/-- Runs ticks until the stop signal is raised, but at most the given number; tells whether the loop has
ended. -/
def run (p : Poller (Shared ω)) (moment : StopMoment) : Nat → PollState → Activity (Shared ω) Bool
  | 0, _ => Shared.stopRequested moment
  | ticks + 1, s => do
    if ← Shared.stopRequested moment then return true
    let (result, s) ← p.tick s
    if ← Shared.pauseUnlessStopped moment (pauseAfter p.config result) then return true
    p.run moment ticks s

end Poller

end WalletEvents
