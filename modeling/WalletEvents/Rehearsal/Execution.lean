import WalletEvents.Executor
import WalletEvents.Rehearsal.Reception

/-!
# Rehearsals of the executor

The executor runs with scripted hooks and plugins, which write into the journal when they act. A hook
may wait before it acts, and a plugin may live on for a while after its installation.

**Surroundings.** Whoever sends requests in a rehearsal does so over the loopback of the machine, which
may be missing. `ReceptionAnswer.over` tells what the sender sees then. It is kept apart from the runs:
nothing that the executor does depends on it.
-/

namespace WalletEvents.Rehearsal

/-- A hook with a script. -/
structure HookScript where
  phase : HookPhase
  name : String
  action : Action
  blocking : Bool
  delay : Option Nat

/-- The hook as the executor calls it. -/
def HookScript.hook (h : HookScript) : LifecycleHook World :=
  let act : Activity World TaskResult := do
    (← h.action.act none (.hook h.name h.phase)).hookResult
  if h.blocking then .blocking act
  else
    match h.delay with
    | some delay => .suspended do
      Activity.pause delay
      act
    | none => .suspended act

/-- A plugin with a script. -/
structure PluginScript where
  name : String
  install : Action
  shutdown : Option Action
  lives : Option Nat

namespace PluginScript

/-- Installs the plugin and lets it live. -/
def installTask (p : PluginScript) : Activity World TaskResult := do
  match ← (← p.install.act none (.plugin p.name .install)).hookResult with
  | .error explanation => return .error explanation
  | .ok () =>
    match p.lives with
    | some time =>
      Activity.pause time
      note (.pluginEnd p.name)
    | none => pure ()
    return .ok ()

/-- Shuts the plugin down, which does not get to the shared context for it. -/
def shutdownTask (p : PluginScript) : Activity World TaskResult :=
  match p.shutdown with
  | some action => do (← action.actApart (.plugin p.name .shutdown)).hookResult
  | none => return .ok ()

/-- The plugin as the executor uses it. -/
def plugin (p : PluginScript) : Plugin World := ⟨p.name, p.installTask, p.shutdownTask⟩

end PluginScript

def executorOf (service : ServiceScript) (d : Dispatcher (Activity World)) (hooks : List HookScript)
    (plugins : List PluginScript) : Executor Stage where
  service := service.service
  dispatcher := d
  plugins := plugins.map PluginScript.plugin
  startupHooks := (hooks.filter (·.phase = .startup)).map HookScript.hook
  shutdownHooks := (hooks.filter (·.phase = .shutdown)).map HookScript.hook

/-- What a run of the executor shows; without a result it never ends. -/
structure ExecutionAnswer where
  result : Option (Except Failure Unit)
  finishedEarly : Bool
  stopped : Bool
  log : List Record

/-- What an activity shows when it is run in a scene. -/
def Scene.finish (scene : Scene) (moment : StopMoment)
    (a : Activity World (Option (Except Failure Unit) × Bool × Bool)) : Option ExecutionAnswer :=
  match a.run scene.time scene.world with
  | (some (result, early, waited), _, w) =>
    some ⟨result, early, w.stopped || (waited && moment.isSome), w.log⟩
  | (none, _) => none

/-- An activity beside the raising of the stop signal; also tells whether it ended before. -/
def besideStop (moment : StopMoment) (a : Activity World (Option (Except Failure Unit))) :
    Activity World (Option (Except Failure Unit) × Bool × Bool) := do
  let ((), result, time) ← Activity.both 0 (noteStop moment) 0 (withEnd a)
  note .finished
  return (result, moment.any (time < ·.time), true)

/-- Runs the executor with polling, from its start to the stop. -/
def runPolling (e : Executor Stage) (config : PollingConfig) (scene : Scene) (moment : StopMoment) :
    Option ExecutionAnswer :=
  scene.finish moment
    (besideStop moment (e.runPolling (e.poller config clock) moment (patience moment)))

/-- Starts the executor and then leaves polling to itself until it is stopped. -/
def startPolling (e : Executor Stage) (config : PollingConfig) (scene : Scene)
    (moment : StopMoment) : Option ExecutionAnswer :=
  scene.finish moment do
    match ← e.start with
    | .error failure =>
      note .finished
      return (some (.error failure), false, false)
    | .ok () =>
      note .started
      besideStop moment (e.pollUntilStopped (e.poller config clock) moment (patience moment))

/-- What a run of the executor with a receiver shows. -/
structure ReceptionAnswer where
  responses : List Http.Response
  result : Except Failure Unit
  log : List Record

/-- Runs the executor with a receiver of notices. -/
def runWebhook (e : Executor Stage) (c : WebhookConfig) (texts : List (String × String))
    (listening : Bool) (requests : List Http.Request) : Option ReceptionAnswer :=
  match (e.runWebhook c listening none requests).run 0 (reception texts) with
  | (some (responses, result), _, s) => some ⟨responses, result, World.log s.inner⟩
  | (none, _) => none

/-- Whether the machine of a rehearsal carries requests to itself. -/
inductive Loopback where
  | up
  | down
  deriving DecidableEq

/-- What the sender of the requests sees of a run: without a loopback none of them is sent. -/
def ReceptionAnswer.over (a : ReceptionAnswer) : Loopback → Except String ReceptionAnswer
  | .up => .ok a
  | .down =>
    if a.responses.isEmpty then .ok a else .error "Network is unreachable (os error 101)"

end WalletEvents.Rehearsal
