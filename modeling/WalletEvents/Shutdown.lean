/-!
# The stop signal

A stop signal is raised once and stays raised. It is raised through handles, which can be cloned and
dropped, and watched by any number of watchers.

**Waiting.** A watcher waits until the signal is raised; when every handle has been dropped nobody can
raise it any more, and waiting ends as well.
-/

namespace WalletEvents

/-- A stop signal: whether it is raised, for each handle whether it is alive, and its watchers. -/
structure Shutdown where
  raised : Bool
  handles : List Bool
  watchers : Nat
  deriving DecidableEq

namespace Shutdown

/-- A signal that is not raised, with one handle. -/
def new : Shutdown := ⟨false, [true], 0⟩

variable (s : Shutdown)

/-- Raises the signal. -/
def trigger : Shutdown := { s with raised := true }

/-- Adds a handle, which is the last one then. -/
def clone : Shutdown := { s with handles := s.handles ++ [true] }

def drop (handle : Nat) : Shutdown := { s with handles := s.handles.set handle false }

/-- Adds a watcher, which is the last one then. -/
def subscribe : Shutdown := { s with watchers := s.watchers + 1 }

/-- Whether some handle is alive. -/
def held : Bool := s.handles.any id

/-- Whether a watcher that waits now goes on at once. -/
def released : Bool := s.raised || !s.held

end Shutdown

end WalletEvents
