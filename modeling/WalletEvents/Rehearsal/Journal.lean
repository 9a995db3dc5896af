import WalletEvents.Shared

/-!
# The journal of a rehearsal

A rehearsal runs the library with handlers, hooks, plugins and a payment service that follow a script.
All of them write what they do into one journal, with the time at which they do it.
-/

namespace WalletEvents.Rehearsal

/-- What an action found out. -/
inductive Finding where
  | replaced (before : Bool)
  | value (text : Option String)
  | client (present : Bool)
  | names (shown : String)
  deriving DecidableEq

/-- How an action ended. -/
inductive Outcome where
  | done
  | skipped
  | cancelled
  | failed (message : String)
  | crashed
  deriving DecidableEq

/-- Before the work or after it. -/
inductive HookPhase where
  | startup
  | shutdown
  deriving DecidableEq

/-- The stations of a plugin. -/
inductive PluginPhase where
  | install
  | shutdown
  deriving DecidableEq

/-- The pages that the service gives. -/
inductive PageKind where
  | good
  | failing
  | repeated
  deriving DecidableEq

/-- An entry of the journal. -/
inductive Entry where
  | condition (name : String) (value : Bool)
  | start (name event : String)
  | call (name event : String) (finding : Option Finding) (outcome : Outcome)
  | hook (name : String) (phase : HookPhase) (finding : Option Finding) (outcome : Outcome)
  | plugin (name : String) (phase : PluginPhase) (finding : Option Finding) (outcome : Outcome)
  | pluginEnd (name : String)
  | history (page : PageKind)
  | keyRequest (url : String)
  | close
  | started
  | stop
  | finished
  deriving DecidableEq

/-- An entry and its time. -/
structure Record where
  time : Nat
  entry : Entry
  deriving DecidableEq

end WalletEvents.Rehearsal
