import WalletEvents.Proofs.Activity.Group
import WalletEvents.Proofs.Executor.Parts

/-!
# Executors that keep a journal

An executor that keeps a journal has the handlers, hooks, plugins and the service of
another one, which put down when they are called and when they are done. They do not
get to the journal themselves, and the stop signal stays raised whatever they do to it.

**Entries.** Calls of the history, of handlers, of shutdown hooks and of the shutdown
of plugins begin and end. An installation puts down when it falls asleep until when it
sleeps, and when it is over. The service is closed at a time and with a result.

`Records C` holds of two states if only entries of the kind `C` have been added to the
journal, and the stop signal has not been taken back.
-/

namespace WalletEvents

/-- A call that begins and ends. -/
inductive Task where
  | history
  | handler
  | hook (place : Nat)
  | plugin (place : Nat)
  deriving DecidableEq

/-- An entry of the journal. -/
inductive Entry where
  | began (task : Task)
  | ended (task : Task)
  /-- The installation of a plugin falls asleep. -/
  | asleep (place wake : Nat)
  /-- The installation of a plugin is over. -/
  | installed (place : Nat)
  | closing (time : Nat)
  | closed (result : Except Failure Unit)
  deriving DecidableEq

/-- A world with a journal. -/
structure Chronicled (ω : Type) where
  world : ω
  journal : List Entry

variable {ω α : Type}

/-- The journal of a state. -/
def Shared.journal (s : Shared (Chronicled ω)) : List Entry := s.world.journal

/-- The state without its journal. -/
def Shared.plain (s : Shared (Chronicled ω)) : Shared ω := ⟨s.context, s.stopped, s.world.world⟩

/-- The state where all but the journal has changed; the stop signal stays raised. -/
def Shared.withPlain (s : Shared (Chronicled ω)) (plain : Shared ω) : Shared (Chronicled ω) :=
  ⟨plain.context, s.stopped || plain.stopped, ⟨plain.world, s.world.journal⟩⟩

/-- The state with another entry at the end of the journal. -/
def Shared.enter (s : Shared (Chronicled ω)) (entry : Entry) : Shared (Chronicled ω) :=
  { s with world := { s.world with journal := s.world.journal ++ [entry] } }

namespace Activity

/-- The same activity, which does not get to the journal. -/
def aside (p : Activity (Shared ω) α) : Activity (Shared (Chronicled ω)) α :=
  p.zoom Shared.plain fun plain s => s.withPlain plain

/-- Puts down an entry. -/
def note (entry : Entry) : Activity (Shared (Chronicled ω)) Unit := .modify fun _ s => s.enter entry

/-- The same activity, which puts down that it is called and that it has ended. -/
def recorded (task : Task) (p : Activity (Shared ω) α) : Activity (Shared (Chronicled ω)) α := do
  note (.began task)
  let a ← p.aside
  note (.ended task)
  return a

/-- The same installation of a plugin, which puts down whenever it falls asleep and when it is over. -/
def announced (place : Nat) : Activity (Shared ω) α → Activity (Shared (Chronicled ω)) α
  | .done a => .act (fun _ s => s.enter (.installed place)) fun _ _ => .done a
  | .crash => .act (fun _ s => s.enter (.installed place)) fun _ _ => .crash
  | .act update next => .act (fun t s => s.withPlain (update t s.plain)) fun t s =>
      (next t s.plain).announced place
  | .sleep ms next => .act (fun t s => s.enter (.asleep place (t + ms))) fun _ _ =>
      .sleep ms (next.announced place)

end Activity

/-- The same service, which puts down the calls of the history and of its closing. -/
def PaymentService.chronicled (service : PaymentService (Activity (Shared ω))) :
    PaymentService (Activity (Shared (Chronicled ω))) where
  history query := (service.history query).recorded .history
  hookKey url := (service.hookKey url).aside
  billSecret := service.billSecret
  close := do
    .modify fun t s => s.enter (.closing t)
    let result ← service.close.aside
    .note (.closed result)
    return result

/-- The same registration, which puts down the calls of its handler. -/
def Registration.chronicled (r : Registration (Activity (Shared ω))) :
    Registration (Activity (Shared (Chronicled ω))) where
  filters := [.leaf fun e => Activity.aside (Filter.checkAll (fun ask => ask e) r.filters)]
  handler e := (r.handler e).recorded .handler

def HandlerChain.chronicled (c : HandlerChain (Activity (Shared ω))) :
    HandlerChain (Activity (Shared (Chronicled ω))) :=
  ⟨c.registrations.map Registration.chronicled, c.stopOnFirstMatch⟩

def Dispatcher.chronicled (d : Dispatcher (Activity (Shared ω))) :
    Dispatcher (Activity (Shared (Chronicled ω))) :=
  ⟨d.transactions.chronicled, d.bills.chronicled, d.errors.chronicled⟩

namespace LifecycleHook

def aside : LifecycleHook (Shared ω) → LifecycleHook (Shared (Chronicled ω))
  | .blocking task => .blocking task.aside
  | .suspended task => .suspended task.aside

/-- The same hook, which puts down its work. -/
def recorded (place : Nat) : LifecycleHook (Shared ω) → LifecycleHook (Shared (Chronicled ω))
  | .blocking task => .blocking (task.recorded (.hook place))
  | .suspended task => .suspended (task.recorded (.hook place))

end LifecycleHook

/-- The same plugin, which puts down what becomes of its installation and its shutdown. -/
def Plugin.chronicled (place : Nat) (plugin : Plugin (Shared ω)) : Plugin (Shared (Chronicled ω)) where
  name := plugin.name
  install := plugin.install.announced place
  shutdown := plugin.shutdown.recorded (.plugin place)

/-- The same executor, which keeps a journal. -/
def Executor.chronicled (e : Executor ω) : Executor (Chronicled ω) where
  service := e.service.chronicled
  dispatcher := e.dispatcher.chronicled
  plugins := e.plugins.mapIdx Plugin.chronicled
  startupHooks := e.startupHooks.map LifecycleHook.aside
  shutdownHooks := e.shutdownHooks.mapIdx LifecycleHook.recorded

/-- Only such entries have been added to the journal, and the stop signal has not been taken back. -/
structure Records (C : Entry → Prop) (s s' : Shared (Chronicled ω)) : Prop where
  journal : ∃ w, s'.journal = s.journal ++ w ∧ ∀ entry ∈ w, C entry
  stopped : s.stopped = true → s'.stopped = true

variable {C : Entry → Prop}

instance : IsPreorder (Shared (Chronicled ω)) (Records C) where
  refl _ := ⟨⟨[], by simp⟩, id⟩
  trans s s' s'' h h' := by
    obtain ⟨v, hv, hC⟩ := h.journal
    obtain ⟨w, hw, hC'⟩ := h'.journal
    refine ⟨⟨v ++ w, by rw [hw, hv, List.append_assoc], ?_⟩, h'.stopped ∘ h.stopped⟩
    intro entry hentry
    exact (List.mem_append.mp hentry).elim (hC entry) (hC' entry)

theorem Records.mono
    {C' : Entry → Prop} {s s' : Shared (Chronicled ω)}
    (h : Records C s s') (hC : ∀ entry, C entry → C' entry) :
    Records C' s s' := by
  obtain ⟨w, hw, hentries⟩ := h.journal
  exact ⟨⟨w, hw, fun entry he => hC entry (hentries entry he)⟩, h.stopped⟩

theorem records_enter (s : Shared (Chronicled ω)) {entry : Entry} (h : C entry) :
    Records C s (s.enter entry) :=
  ⟨⟨[entry], rfl, by simpa using h⟩, id⟩

theorem records_withPlain (s : Shared (Chronicled ω)) (plain : Shared ω) :
    Records C s (s.withPlain plain) where
  journal := ⟨[], by simp [Shared.withPlain, Shared.journal]⟩
  stopped := by simp +contextual [Shared.withPlain]

namespace Activity

theorem only_aside (p : Activity (Shared ω) α) :
    p.aside.Only (Records C) :=
  only_zoom (only_true p) fun plain s _ => records_withPlain s plain

/-- The journal stays as it is. -/
theorem silent_aside (p : Activity (Shared ω) α) :
    p.aside.Only (Unchanged Shared.journal) :=
  only_zoom (only_true p) fun _ _ _ => rfl

theorem only_note {entry : Entry} (h : C entry) :
    (note entry : Activity (Shared (Chronicled ω)) Unit).Only (Records C) :=
  only_modify fun _ s => records_enter s h

theorem only_recorded
    {task : Task} (hbegan : C (.began task)) (hended : C (.ended task))
    (p : Activity (Shared ω) α) :
    (p.recorded task).Only (Records C) :=
  only_bind (only_note hbegan) fun _ =>
    only_bind (only_aside p) fun _ => only_bind (only_note hended) fun _ => only_pure _

end Activity

theorem PaymentService.only_close_chronicled
    (service : PaymentService (Activity (Shared ω)))
    (hclosing : ∀ time, C (.closing time)) (hclosed : ∀ result, C (.closed result)) :
    service.chronicled.close.Only (Records C) := by
  refine Activity.only_bind (Activity.only_modify fun t s => records_enter s (hclosing t)) fun _ => ?_
  refine Activity.only_bind (Activity.only_aside _) fun result => ?_
  exact Activity.only_bind (Activity.only_note (hclosed result)) fun _ => Activity.only_pure _

end WalletEvents
