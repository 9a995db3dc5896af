import WalletEvents.Proofs.Executor.Parts

/-!
# Executors that keep a diary

An executor that keeps a diary has the parts of another one, which put down that they
have been begun before they do anything else. The parts do not get to the diary
themselves, and otherwise everything is as it was.

**Entries.** A startup hook puts down whether it finds the client of the service in the
context, both when it is called and when it answers. For an installation, a call of the
history, a handler, a shutdown hook and the shutdown of a plugin there is one entry each.
The closing of the service has a second entry, with its result.

**Results.**

* `Executor.pollsOnly_diarist`, `Executor.stopsOnly_diarist`: what polling and a stop put
  down.
* `Executor.announces_installations`: the installations have one entry each, and it comes
  first.
-/

namespace WalletEvents

/-- An entry of the diary. -/
inductive Happening where
  /-- A startup hook is called, and finds the client in the context or does not. -/
  | called (place : Nat) (client : Bool)
  /-- A startup hook answers, and the client is in the context or is not. -/
  | answered (place : Nat) (result : TaskResult) (client : Bool)
  | installing (place : Nat)
  | asking
  | handling
  | stopping (place : Nat)
  | leaving (place : Nat)
  | closing
  | closed (result : Except Failure Unit)
  deriving DecidableEq

/-- Whether it has to do with a startup hook or with the installation of a plugin. -/
def Happening.isOpening : Happening → Bool
  | .called _ _ | .answered _ _ _ | .installing _ => true
  | _ => false

/-- A world with a diary. -/
structure Diary (ω : Type) where
  world : ω
  entries : List Happening

variable {ω α : Type}

namespace Shared

/-- Whether the client of the service is in the context. -/
def hasClient (s : Shared ω) : Bool := (s.context.get? .client Context.clientName).isSome

def diary (s : Shared (Diary ω)) : List Happening := s.world.entries

/-- The state without its diary. -/
def bare (s : Shared (Diary ω)) : Shared ω := ⟨s.context, s.stopped, s.world.world⟩

/-- The state where all but the diary has changed. -/
def withBare (s : Shared (Diary ω)) (bare : Shared ω) : Shared (Diary ω) :=
  ⟨bare.context, bare.stopped, ⟨bare.world, s.world.entries⟩⟩

/-- The state with another entry at the end of the diary. -/
def put (s : Shared (Diary ω)) (entry : Happening) : Shared (Diary ω) :=
  { s with world := { s.world with entries := s.world.entries ++ [entry] } }

end Shared

namespace Activity

/-- The same activity, which does not get to the diary. -/
def unseen (p : Activity (Shared ω) α) : Activity (Shared (Diary ω)) α :=
  p.zoom Shared.bare fun bare s => s.withBare bare

/-- Puts down an entry. -/
def jot (entry : Shared (Diary ω) → Happening) : Activity (Shared (Diary ω)) Unit :=
  .modify fun _ s => s.put (entry s)

/-- The same activity, which puts down that it has been begun. -/
def heralded (entry : Happening) (p : Activity (Shared ω) α) : Activity (Shared (Diary ω)) α := do
  jot fun _ => entry
  p.unseen

/-- The same startup hook, which puts down when it is called and what it answers. -/
def greeted (place : Nat) (p : Activity (Shared ω) TaskResult) :
    Activity (Shared (Diary ω)) TaskResult := do
  jot fun s => .called place s.hasClient
  let result ← p.unseen
  jot fun s => .answered place result s.hasClient
  return result

end Activity

def PaymentService.diarist (service : PaymentService (Activity (Shared ω))) :
    PaymentService (Activity (Shared (Diary ω))) where
  history query := (service.history query).heralded .asking
  hookKey url := (service.hookKey url).unseen
  billSecret := service.billSecret
  close := do
    let result ← service.close.heralded .closing
    .jot fun _ => .closed result
    return result

def Registration.diarist (r : Registration (Activity (Shared ω))) :
    Registration (Activity (Shared (Diary ω))) where
  filters := [.leaf fun e => Activity.unseen (Filter.checkAll (fun ask => ask e) r.filters)]
  handler e := (r.handler e).heralded .handling

def HandlerChain.diarist (c : HandlerChain (Activity (Shared ω))) :
    HandlerChain (Activity (Shared (Diary ω))) :=
  ⟨c.registrations.map Registration.diarist, c.stopOnFirstMatch⟩

def Dispatcher.diarist (d : Dispatcher (Activity (Shared ω))) :
    Dispatcher (Activity (Shared (Diary ω))) :=
  ⟨d.transactions.diarist, d.bills.diarist, d.errors.diarist⟩

/-- The same hook, whose work is put down in some way. -/
def LifecycleHook.withTask
    {σ τ : Type} (f : Activity σ TaskResult → Activity τ TaskResult) :
    LifecycleHook σ → LifecycleHook τ
  | .blocking task => .blocking (f task)
  | .suspended task => .suspended (f task)

def Plugin.diarist (place : Nat) (plugin : Plugin (Shared ω)) : Plugin (Shared (Diary ω)) where
  name := plugin.name
  install := plugin.install.heralded (.installing place)
  shutdown := plugin.shutdown.heralded (.leaving place)

/-- The same executor, which keeps a diary. -/
def Executor.diarist (e : Executor ω) : Executor (Diary ω) where
  service := e.service.diarist
  dispatcher := e.dispatcher.diarist
  plugins := e.plugins.mapIdx Plugin.diarist
  startupHooks := e.startupHooks.mapIdx fun place hook => hook.withTask (.greeted place)
  shutdownHooks := e.shutdownHooks.mapIdx fun place hook => hook.withTask (.heralded (.stopping place))

/-- Only such entries have been added to the diary. -/
abbrev PutsDown (C : Happening → Prop) : Shared (Diary ω) → Shared (Diary ω) → Prop :=
  Activity.Appends Shared.diary C

variable {C : Happening → Prop}

namespace Activity

/-- The diary stays as it is. -/
theorem silent_unseen (p : Activity (Shared ω) α) :
    p.unseen.Only (Unchanged Shared.diary) :=
  only_zoom (only_true p) fun _ _ _ => rfl

theorem putsDown_unseen (p : Activity (Shared ω) α) :
    p.unseen.Only (PutsDown C) :=
  only_zoom (only_true p) fun _ _ _ => ⟨[], by simp [Shared.diary, Shared.withBare]⟩

theorem putsDown_jot {entry : Shared (Diary ω) → Happening} (h : ∀ s, C (entry s)) :
    (jot entry).Only (PutsDown C) :=
  only_modify fun _ s => ⟨[entry s], rfl, by simpa using h s⟩

theorem putsDown_heralded {entry : Happening} (h : C entry) (p : Activity (Shared ω) α) :
    (p.heralded entry).Only (PutsDown C) :=
  only_bind (putsDown_jot fun _ => h) fun _ => putsDown_unseen p

theorem returns_heralded {entry : Happening} {p : Activity (Shared ω) α} (hp : p.Returns) :
    (p.heralded entry).Returns :=
  returns_bind (returns_modify _) fun _ => returns_zoom hp

section Traces

variable {R : Shared (Diary ω) → Shared (Diary ω) → Prop}
variable {t t' : Nat} {s s' : Shared (Diary ω)} {w : List Happening}

theorem Trace.of_jot
    {entry : Shared (Diary ω) → Happening} {x : Option Unit}
    (h : Trace R Shared.diary (jot entry) t s w t' s' x) :
    ∃ s₁, w = [entry s₁] ∧ R s s₁ ∧ R (s₁.put (entry s₁)) s' := by
  obtain ⟨s₁, hbefore, hentry, -, hafter, -⟩ := h.modify_inv
  exact ⟨s₁, (List.append_cancel_left hentry).symm, hbefore, hafter⟩

theorem Trace.of_heralded
    [IsPreorder (Shared (Diary ω)) R] {entry : Happening} {p : Activity (Shared ω) α} {x : Option α}
    (h : Trace R Shared.diary (p.heralded entry) t s w t' s' x) :
    w = [entry] := by
  obtain ⟨_, _, _, _, _, rfl, hentry, hwork⟩ := h.bind_returns (returns_modify _)
  obtain ⟨_, rfl, -⟩ := hentry.of_jot
  rw [hwork.eq_nil_of_only (silent_unseen p), List.append_nil]

end Traces

theorem putsDown_greeted
    {place : Nat} (hcalled : ∀ client, C (.called place client))
    (hanswered : ∀ result client, C (.answered place result client))
    (p : Activity (Shared ω) TaskResult) :
    (p.greeted place).Only (PutsDown C) :=
  only_bind (putsDown_jot fun s => hcalled s.hasClient) fun _ =>
    only_bind (putsDown_unseen p) fun result =>
      only_bind (putsDown_jot fun s => hanswered result s.hasClient) fun _ => only_pure _

end Activity

open Activity

theorem PaymentService.putsDown_close
    (service : PaymentService (Activity (Shared ω)))
    (hclosing : C .closing) (hclosed : ∀ result, C (.closed result)) :
    service.diarist.close.Only (PutsDown C) :=
  only_bind (putsDown_heralded hclosing _) fun result =>
    only_bind (putsDown_jot fun _ => hclosed result) fun _ => only_pure _

/-- The closing of the service has a result, unless it breaks off. -/
theorem PaymentService.trace_close_diarist
    {R : Shared (Diary ω) → Shared (Diary ω) → Prop} [IsPreorder (Shared (Diary ω)) R]
    {service : PaymentService (Activity (Shared ω))} {t t' : Nat} {s s' : Shared (Diary ω)}
    {w : List Happening} {x : Option (Except Failure Unit)}
    (h : Trace R Shared.diary service.diarist.close t s w t' s' x) :
    (∃ result, x = some result ∧ w = [.closing, .closed result]) ∨ x = none ∧ w = [.closing] := by
  rcases h.bind_cases with ⟨result, _, _, _, _, rfl, hclose, hrest⟩ | ⟨rfl, hclose⟩
  · obtain rfl := hclose.of_heralded
    obtain ⟨_, _, _, _, _, rfl, hclosed, hlast⟩ := hrest.bind_returns (returns_modify _)
    obtain ⟨_, rfl, -⟩ := hclosed.of_jot
    obtain ⟨rfl, -, -, rfl⟩ := hlast.pure_inv
    exact .inl ⟨result, rfl, rfl⟩
  · exact .inr ⟨rfl, hclose.of_heralded⟩

theorem Registration.doesOnly_diarist (r : Registration (Activity (Shared ω))) (h : C .handling) :
    r.diarist.DoesOnly (PutsDown C) := by
  refine fun event => ⟨?_, putsDown_heralded h _⟩
  refine only_bind (putsDown_unseen _) fun holds => ?_
  cases holds with
  | true => exact only_pure true
  | false => exact only_pure false

namespace Dispatcher

theorem chain_diarist (d : Dispatcher (Activity (Shared ω))) (kind : EventKind) :
    d.diarist.chain kind = (d.chain kind).diarist := by
  cases kind with
  | transaction => rfl
  | bill => rfl
  | error => rfl

theorem doesOnly_diarist (d : Dispatcher (Activity (Shared ω))) (h : C .handling) :
    d.diarist.DoesOnly (PutsDown C) := by
  intro kind r hr
  rw [chain_diarist] at hr
  obtain ⟨r, -, rfl⟩ := List.mem_map.mp hr
  exact r.doesOnly_diarist h

theorem AlwaysReturns.diarist {d : Dispatcher (Activity (Shared ω))} (h : d.AlwaysReturns) :
    d.diarist.AlwaysReturns := by
  intro kind noted hnoted e
  rw [chain_diarist] at hnoted
  obtain ⟨r, hr, rfl⟩ := List.mem_map.mp hnoted
  obtain ⟨hfilters, hhandler⟩ := h kind r hr e
  refine ⟨returns_bind (returns_zoom hfilters) fun holds => ?_, returns_heralded hhandler⟩
  cases holds with
  | true => trivial
  | false => trivial

end Dispatcher

namespace LifecycleHook

variable {σ τ : Type}

theorem task_withTask (f : Activity σ TaskResult → Activity τ TaskResult) (hook : LifecycleHook σ) :
    (hook.withTask f).task = f hook.task := by
  cases hook with
  | blocking task => rfl
  | suspended task => rfl

/-- A hook that is run as soon as it has been called does its work either way. -/
theorem call_bind_run
    {β : Type} (hook : LifecycleHook σ) (k : TaskResult → Activity σ β) :
    (hook.call >>= fun task => task >>= k) = hook.task >>= k := by
  cases hook with
  | blocking task => exact Activity.bind_assoc task _ _
  | suspended task => rfl

end LifecycleHook

namespace Executor

theorem pollsOnly_diarist (e : Executor ω) (hasking : C .asking) (hhandling : C .handling) :
    e.diarist.PollsOnly (PutsDown C) where
  history _ := putsDown_heralded hasking _
  dispatcher := e.dispatcher.doesOnly_diarist hhandling

theorem stopsOnly_diarist
    (e : Executor ω) (hstopping : ∀ place, C (.stopping place)) (hleaving : ∀ place, C (.leaving place)) :
    e.diarist.StopsOnly (PutsDown C) where
  hooks hook hhook := by
    obtain ⟨i, hi, rfl⟩ := List.mem_mapIdx.mp hhook
    rw [LifecycleHook.task_withTask]
    exact putsDown_heralded (hstopping i) _
  plugins plugin hplugin := by
    obtain ⟨i, hi, rfl⟩ := List.mem_mapIdx.mp hplugin
    exact putsDown_heralded (hleaving i) _
  signal s := ⟨[], by simp [Shared.stop, Shared.diary]⟩

theorem StopsSafely.diarist {e : Executor ω} (h : e.StopsSafely) :
    e.diarist.StopsSafely where
  hooks hook hhook := by
    obtain ⟨i, hi, rfl⟩ := List.mem_mapIdx.mp hhook
    rw [LifecycleHook.task_withTask]
    exact returns_heralded (h.hooks _ (List.getElem_mem hi))
  plugins plugin hplugin := by
    obtain ⟨i, hi, rfl⟩ := List.mem_mapIdx.mp hplugin
    exact returns_heralded (h.plugins _ (List.getElem_mem hi))

/-- The entries of the installations. -/
def installs (e : Executor ω) : List Happening := (List.range e.plugins.length).map .installing

theorem announces_installations (e : Executor ω) :
    List.Forall₂ (fun p entry => p.Announces Shared.diary entry) e.diarist.installations e.installs := by
  refine List.forall₂_iff_get.mpr ⟨by simp [installations, diarist, installs], fun i hi hi' => ?_⟩
  simp only [installations, diarist, installs, List.get_eq_getElem, List.getElem_map,
    List.getElem_mapIdx, List.getElem_range]
  intro t s
  exact ⟨rfl, only_bind (silent_unseen _) fun _ => only_pure _⟩

end Executor

end WalletEvents
