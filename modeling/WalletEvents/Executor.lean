import WalletEvents.Polling.Loop
import WalletEvents.Webhook.Router

/-!
# The executor

The executor runs a dispatcher from an orderly start to an orderly stop, with polling or with a receiver
of notices in between.

**Start.** The client of the service is put into the context and the startup hooks are called one after
another. When one fails, the service is closed and nothing else happens. Then the plugins are installed,
each in the background.

**Stop.** After the stop signal the poller ends its tick. The shutdown hooks are called and run side by
side, then the plugins are shut down side by side, what is left of their installations is dropped, and
last the service is closed. Failures of hooks and plugins do not keep the others from their turn.
-/

namespace WalletEvents

/-- How a hook or a plugin ends; it may explain why it failed. -/
abbrev TaskResult := Except String Unit

/-- A hook does its work when it is called, or leaves it to be run afterwards. -/
inductive LifecycleHook (σ : Type) where
  | blocking (task : Activity σ TaskResult)
  | suspended (task : Activity σ TaskResult)

namespace LifecycleHook

variable {σ : Type}

/-- Calls a hook, which gives what is left to run. -/
def call : LifecycleHook σ → Activity σ (Activity σ TaskResult)
  | .blocking task => do return .done (← task)
  | .suspended task => pure task

end LifecycleHook

/-- A component that lives beside the dispatcher. -/
structure Plugin (σ : Type) where
  name : String
  install : Activity σ TaskResult
  shutdown : Activity σ TaskResult

/-- A dispatcher with all that lives around it. -/
structure Executor (ω : Type) where
  service : PaymentService (Activity (Shared ω))
  dispatcher : Dispatcher (Activity (Shared ω))
  plugins : List (Plugin (Shared ω))
  startupHooks : List (LifecycleHook (Shared ω))
  shutdownHooks : List (LifecycleHook (Shared ω))

namespace Executor

variable {ω : Type}

/-- Calls startup hooks up to the first that fails. -/
def callStartupHooks (e : Executor ω) :
    List (LifecycleHook (Shared ω)) → Activity (Shared ω) (Except Failure Unit)
  | [] => pure (.ok ())
  | hook :: rest => do
    match ← (← hook.call) with
    | .ok () => e.callStartupHooks rest
    | .error explanation =>
      let _ ← e.service.close
      return .error (.hook (.failed explanation))

/-- Puts the client into the context and calls the startup hooks. -/
def start (e : Executor ω) : Activity (Shared ω) (Except Failure Unit) := do
  .modify fun _ s =>
    { s with context := s.context.insert Context.clientName ⟨.client, ()⟩ }
  e.callStartupHooks e.startupHooks

/-- The installations of the plugins. -/
def installations (e : Executor ω) : List (Activity (Shared ω) Unit) :=
  e.plugins.map fun plugin => do
    let _ ← plugin.install
    return ()

/-- Runs the shutdown hooks, and then shuts down the plugins. -/
def wrapUp (e : Executor ω) : Activity (Shared ω) Unit := do
  let tasks ← e.shutdownHooks.mapM LifecycleHook.call
  let _ ← Activity.gather tasks
  let _ ← Activity.gather (e.plugins.map Plugin.shutdown)
  return ()

/-- Raises the stop signal and wraps up; nothing is given if a hook or a plugin breaks off. -/
def stop (e : Executor ω) : Activity (Shared ω) (Option Unit) := do
  .modify fun _ s => s.stop
  e.wrapUp.guarded

/-- Closes the service after a stop. -/
def close (e : Executor ω) (stopped : Option Unit) : Activity (Shared ω) (Except Failure Unit) :=
  match stopped with
  | none => return .error (.hook .crashed)
  | some () => do return (← e.service.close.guarded).getD (.error (.hook .crashed))

def poller (e : Executor ω) (config : PollingConfig) (clock : Nat → Instant) : Poller (Shared ω) :=
  ⟨config, e.service, e.dispatcher, clock⟩

/-- Polls until the stop signal, with the plugins in the background, and stops; nothing is given if the
signal is never raised or the given number of ticks is not enough, and as many milliseconds after a tick
that breaks off. -/
def pollUntilStopped (e : Executor ω) (p : Poller (Shared ω)) (moment : StopMoment) (ticks : Nat) :
    Activity (Shared ω) (Option (Except Failure Unit)) := do
  let stopped ← Activity.withBackground e.installations do
    let ended ← (p.run moment ticks (.start p.config)).guarded
    if ended = some false then return none
    if ← Shared.untilStopped moment ticks then return some (← e.stop) else return none
  match stopped with
  | none => return none
  | some stopped => return some (← e.close stopped)

/-- Starts, polls until the stop signal, and stops. -/
def runPolling (e : Executor ω) (p : Poller (Shared ω)) (moment : StopMoment) (ticks : Nat) :
    Activity (Shared ω) (Option (Except Failure Unit)) := do
  match ← e.start with
  | .error failure => return some (.error failure)
  | .ok () => e.pollUntilStopped p moment ticks

/-- The responses to requests that come one after another until the stop signal is raised, as they are
sent. -/
def answer (router : Router (Activity (Reception (Shared ω)))) (moment : StopMoment) :
    List Http.Request → Activity (Reception (Shared ω)) (List Http.Response)
  | [] => return []
  | request :: rest => do
    if ← Receiver.within (Shared.stopRequested moment) then return []
    let response ← router.respond request
    return response.answering request.method :: (← answer router moment rest)

/-- Receives notices with the plugins in the background, until the stop signal or the end of the requests,
and stops. The work breaks off when the paths of the routes make no sense. -/
def receiveUntilStopped (e : Executor ω) (c : WebhookConfig) (secrets : WebhookSecrets)
    (moment : StopMoment) (requests : List Http.Request) :
    Activity (Reception (Shared ω)) (List Http.Response × Except Failure Unit) := do
  let receiver : Receiver (Shared ω) := ⟨secrets, e.dispatcher.processEvent⟩
  let (responses, stopped) ← Activity.withBackground (e.installations.map Receiver.within) do
    match receiver.router? c with
    | none => .crash
    | some router =>
      let responses ← answer router moment requests
      return (responses, ← Receiver.within e.stop)
  return (responses, ← Receiver.within (e.close stopped))

/-- Finds the keys, starts, receives notices, and stops. Without an end point to listen on the executor
stops at once. -/
def runWebhook (e : Executor ω) (c : WebhookConfig) (listening : Bool) (moment : StopMoment)
    (requests : List Http.Request) :
    Activity (Reception (Shared ω)) (List Http.Response × Except Failure Unit) := do
  match ← Receiver.within (c.resolve e.service) with
  | .error failure => return ([], .error failure)
  | .ok secrets =>
    match ← Receiver.within e.start with
    | .error failure => return ([], .error failure)
    | .ok () =>
      if listening then e.receiveUntilStopped c secrets moment requests
      else
        let stopped ← Activity.withBackground (e.installations.map Receiver.within)
          (Receiver.within e.stop)
        match ← Receiver.within (e.close stopped) with
        | .error failure => return ([], .error failure)
        | .ok () => return ([], .error .machine)

end Executor

end WalletEvents
