import WalletEvents.Polling.Loop
import WalletEvents.Rehearsal.Service

/-!
# Sessions of a rehearsal

A session takes the library through a number of steps in one world. Every step shows its result and what
it wrote into the journal. When a scripted part breaks off, the whole session has no result.
-/

namespace WalletEvents.Rehearsal

/-- A world at a time. -/
structure Scene where
  time : Nat
  world : World

/-- The scene at the beginning. -/
def Scene.new (texts : List (String × String)) (pages : List Page) : Scene :=
  ⟨0, World.new texts pages⟩

/-- What a step shows. -/
structure Shown (α : Type) where
  result : α
  log : List Record

/-- The journal in the order of time. -/
def World.log (w : World) : List Record := w.world.journal.reverse

/-- The world with an empty journal. -/
def World.clearJournal (w : World) : World := { w with world := { w.world with journal := [] } }

/-- Runs an activity as a step. -/
def Scene.play {α : Type} (scene : Scene) (p : Activity World α) : Option (Shown α × Scene) :=
  match p.run scene.time scene.world.clearJournal with
  | (some result, time, world) => some (⟨result, world.log⟩, ⟨time, world⟩)
  | (none, _) => none

/-- A step of a dispatching session. -/
inductive DispatchStep where
  | process (e : Event)
  | feed (events : List Event)
  | register (h : Handler)
  | matchAll (kind : EventKind) (all : Bool)
  | count (kind : EventKind)
  | names

/-- What a step of a dispatching session gives. -/
inductive DispatchAnswer where
  | processed (result : Except DispatchError Unit)
  | count (handlers : Nat)
  | names (shown : String)

/-- The steps of a session, one after another. -/
def dispatchSession (d : Dispatcher (Activity World)) (scene : Scene) :
    List DispatchStep → Option (List (Shown DispatchAnswer))
  | [] => some []
  | step :: rest => do
    let (p, d) : Activity World DispatchAnswer × Dispatcher (Activity World) :=
      match step with
      | .process e => (do return .processed (← d.processEvent e), d)
      | .feed events => (do return .processed (← d.feedEvents events), d)
      | .register h => (pure (.processed (.ok ())), d.register h.kind h.registration)
      | .matchAll kind all => (pure (.processed (.ok ())), d.setStopOnFirstMatch kind !all)
      | .count kind => (pure (.count (d.count kind)), d)
      | .names => (.read fun w => .names w.context.shown, d)
    let (shown, scene) ← scene.play p
    return shown :: (← dispatchSession d scene rest)

/-- The clock of a rehearsal begins with the year 2024. -/
def clock (time : Nat) : Instant :=
  ⟨1704067200 + (time / 1000 : Nat), time % 1000 * 1000000⟩

/-- What a tick gives: its result, the state after it, and what it asked for. -/
structure TickAnswer where
  result : Except Failure TickReport
  state : PollState
  query : HistoryQuery

/-- A number of ticks, one after another. -/
def pollSession (p : Poller World) (scene : Scene) (s : PollState) :
    Nat → Option (List (Shown TickAnswer))
  | 0 => some []
  | ticks + 1 => do
    let query := Poller.query p.config (p.clock scene.time) s
    let (shown, scene) ← scene.play (p.tick s)
    let (result, s) := shown.result
    return ⟨⟨result, s, query⟩, shown.log⟩ :: (← pollSession p scene s ticks)

/-- The number of ticks after which a rehearsal gives up waiting for the stop signal. -/
def patience (moment : StopMoment) : Nat := moment.elim 0 OutsideStop.time + 100000

/-- What a run of the polling loop shows. -/
structure RunAnswer where
  log : List Record
  finishedEarly : Bool
  crashed : Bool

/-- Writes when the stop signal is raised from outside. -/
def noteStop : StopMoment → Activity World Unit
  | some moment => do
    let left ← .modifyGet fun t w => (moment.time - t, w)
    Activity.pause left
    note .stop
  | none => pure ()

/-- An activity with the time of its end. -/
def withEnd {α : Type} (a : Activity World α) : Activity World (α × Nat) := do
  let result ← a
  .modifyGet fun t w => ((result, t), w)

/-- Runs the polling loop to its end; the session lasts at least until the stop signal is raised. -/
def pollRun (p : Poller World) (scene : Scene) (moment : StopMoment) : RunAnswer :=
  let loop := withEnd (p.run moment (patience moment) (.start p.config)).guarded
  let session : Activity World (Option Bool × Nat) := do
    let ((), answer) ← Activity.both 0 (noteStop moment) 0 loop
    note .finished
    return answer
  match session.run scene.time scene.world with
  | (some (ended, time), _, world) => ⟨world.log, moment.any (time < ·.time), ended.isNone⟩
  | (none, _, world) => ⟨world.log, false, true⟩

end WalletEvents.Rehearsal
