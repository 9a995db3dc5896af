import WalletEvents.Executor
import WalletEvents.Proofs.Activity.Group
import WalletEvents.Proofs.Dispatch.Chain
import WalletEvents.Proofs.Polling.Loop
import WalletEvents.Proofs.Webhook.Routes

/-!
# The parts of an executor

An executor is put together from what others bring: a service, filters and handlers,
hooks and plugins. What its phases may do to the state follows from what these parts
may do to it.

**Results.**

* `Executor.PollsOnly.run`, `Executor.StopsOnly.stop`: polling makes the changes that the
  history, the filters and the handlers make, and a stop those of the shutdown hooks and
  of the shutdowns of the plugins.
* `Executor.only_session`, `Executor.only_serving`: what runs in front of the
  installations of the plugins makes no others.
* `Executor.StopsSafely.trace_wrapUp`: if no shutdown hook and no shutdown of a plugin
  breaks off, a stop has all of the former behind it before it turns to the latter, and
  leaves none out.
-/

namespace WalletEvents

open Activity

namespace LifecycleHook

variable {σ : Type} {G : σ → σ → Prop}

/-- What a hook does. -/
def task : LifecycleHook σ → Activity σ TaskResult
  | .blocking task => task
  | .suspended task => task

/-- A call of a hook leaves its work to be run, or has done it. -/
theorem yields_call
    {P : Activity σ TaskResult → Prop} {hook : LifecycleHook σ} (h : P hook.task)
    (hdone : ∀ result, P (.done result)) :
    hook.call.Yields P := by
  cases hook with
  | blocking task => exact Activity.yields_bind (Activity.yields_true task) fun result _ => hdone result
  | suspended task => exact h

theorem yields_mapM_call
    {P : Activity σ TaskResult → Prop} {hooks : List (LifecycleHook σ)}
    (h : ∀ hook ∈ hooks, P hook.task) (hdone : ∀ result, P (.done result)) :
    (hooks.mapM call).Yields fun tasks => ∀ task ∈ tasks, P task := by
  induction hooks with
  | nil =>
      rw [List.mapM_nil]
      exact fun _ hnone => absurd hnone (List.not_mem_nil)
  | cons hook rest ih =>
      rw [List.mapM_cons]
      refine Activity.yields_bind (yields_call (h hook (by simp)) hdone) fun task htask => ?_
      refine Activity.yields_bind (ih fun other hother => h other (by simp [hother])) fun tasks htasks => ?_
      intro other hother
      rcases List.mem_cons.mp hother with rfl | hother
      · exact htask
      · exact htasks other hother

theorem only_call {hook : LifecycleHook σ} (h : hook.task.Only G) :
    hook.call.Only G := by
  cases hook with
  | blocking task => exact Activity.only_bind h fun _ => Activity.only_pure _
  | suspended task => exact Activity.only_pure _

theorem returns_call {hook : LifecycleHook σ} (h : hook.task.Returns) :
    hook.call.Returns := by
  cases hook with
  | blocking task => exact Activity.returns_bind h fun _ => trivial
  | suspended task => trivial

end LifecycleHook

section Dispatching

variable {σ : Type} {G : σ → σ → Prop}

/-- What the filters of a registration and its handler may do. -/
def Registration.DoesOnly (r : Registration (Activity σ)) (G : σ → σ → Prop) : Prop :=
  ∀ e, Activity.Only G (Filter.checkAll (fun ask => ask e) r.filters) ∧ (r.handler e).Only G

theorem only_walk
    {rs : List (Registration (Activity σ))} (h : ∀ r ∈ rs, r.DoesOnly G) (stop handled : Bool)
    (e : Event) :
    (walk stop e handled rs).Only G := by
  induction rs generalizing handled with
  | nil => exact only_pure _
  | cons r rest ih =>
      have hrest := ih fun other hother => h other (by simp [hother])
      obtain ⟨hfilters, hhandler⟩ := h r (by simp) e
      refine only_bind hfilters fun holds => ?_
      cases holds with
      | false => exact hrest handled
      | true =>
          refine only_bind hhandler fun result => ?_
          cases result with
          | handled =>
              cases stop with
              | true => exact only_pure _
              | false => exact hrest true
          | skip => exact hrest handled
          | cancel => exact only_pure _
          | failed fault => exact only_pure _

namespace Dispatcher

/-- What the filters and the handlers of a dispatcher may do. -/
def DoesOnly (d : Dispatcher (Activity σ)) (G : σ → σ → Prop) : Prop :=
  ∀ kind, ∀ r ∈ (d.chain kind).registrations, r.DoesOnly G

variable {d : Dispatcher (Activity σ)}

theorem DoesOnly.processEvent (h : d.DoesOnly G) (e : Event) :
    (d.processEvent e).Only G := by
  refine only_bind (only_walk (h e.kind) _ _ e) fun first => ?_
  cases first with
  | ok _ => exact only_pure _
  | error fault =>
      dsimp only
      split
      · exact only_pure _
      · refine only_bind (only_walk (h .error) _ _ _) fun second => ?_
        rcases second with again | handled
        · exact only_pure _
        · cases handled with
          | true => exact only_pure _
          | false => exact only_pure _

theorem DoesOnly.feedEvents (h : d.DoesOnly G) (events : List Event) :
    (d.feedEvents events).Only G := by
  refine only_bind (only_gather ?_) fun _ => only_pure _
  intro p hp
  obtain ⟨e, -, rfl⟩ := List.mem_map.mp hp
  exact h.processEvent e

end Dispatcher

end Dispatching

section Returning

variable {ω : Type}

/-- Whatever event comes, neither the filters of a registration nor its handler break off. -/
def Registration.AlwaysReturns (r : Registration (Activity (Shared ω))) : Prop :=
  ∀ e, Activity.Returns (Filter.checkAll (fun ask => ask e) r.filters) ∧ (r.handler e).Returns

namespace Dispatcher

/-- No filter and no handler of the dispatcher breaks off. -/
def AlwaysReturns (d : Dispatcher (Activity (Shared ω))) : Prop :=
  ∀ kind, ∀ r ∈ (d.chain kind).registrations, r.AlwaysReturns

variable {d : Dispatcher (Activity (Shared ω))}

theorem AlwaysReturns.processEvent (h : d.AlwaysReturns) (e : Event) :
    (d.processEvent e).Returns := by
  have hwalk (kind : EventKind) (stop handled : Bool) (e : Event) :
      (walk stop e handled (d.chain kind).registrations).Returns :=
    returns_walk fun r hr => h kind r hr e
  refine returns_bind (hwalk e.kind _ _ e) fun first => ?_
  cases first with
  | ok _ => trivial
  | error fault =>
      dsimp only
      split
      · trivial
      · refine returns_bind (hwalk .error _ _ _) fun second => ?_
        rcases second with again | handled
        · trivial
        · cases handled with
          | true => trivial
          | false => trivial

theorem AlwaysReturns.feedEvents (h : d.AlwaysReturns) (events : List Event) :
    (d.feedEvents events).Returns := by
  refine returns_bind (returns_gather ?_) fun _ => trivial
  intro p hp
  obtain ⟨e, -, rfl⟩ := List.mem_map.mp hp
  exact h.processEvent e

end Dispatcher

end Returning

namespace Receiver

variable {σ α : Type} {G : σ → σ → Prop}

/-- Changes of the world of the notices. -/
def Inner (G : σ → σ → Prop) (s s' : Reception σ) : Prop := G s.inner s'.inner

instance [IsPreorder σ G] : IsPreorder (Reception σ) (Inner G) where
  refl s := refl_of G s.inner
  trans _ _ _ h h' := trans_of G h h'

theorem only_within {p : Activity σ α} (hp : p.Only G) :
    (within p).Only (Inner G) :=
  only_zoom hp fun _ _ h => h

theorem run_within_inv
    {p : Activity σ α} {t t' : Nat} {s s' : Reception σ} {x : Option α}
    (h : (within p).run t s = (x, t', s')) :
    p.run t s.inner = (x, t', s'.inner) := by
  rw [within, run_zoom (by simp) (by simp) (by simp)] at h
  cases h
  rfl

variable {r : Receiver σ}

theorem exists_routes
    {c : WebhookConfig} {router : Router (Activity (Reception σ))} (h : r.router? c = some router) :
    ∃ routes, routes? c r.secrets = some routes := by
  rw [router?_eq] at h
  exact (Option.map_eq_some_iff.mp h).imp fun _ => And.left

variable [IsPreorder σ G]

theorem only_endpoint (h : ∀ event, (r.process event).Only G) (kind : NoticeKind) (request : Http.Request) :
    (r.endpoint kind request).Only (Inner G) := by
  unfold endpoint
  split
  · exact only_pure _
  · refine only_bind ?_ fun _ => only_pure _
    unfold receive
    cases Arrival.read? kind request.headers request.body with
    | none => exact only_pure _
    | some arrival =>
        refine only_bind (only_read _) fun known => ?_
        split
        · exact only_pure _
        · split
          · exact only_pure _
          · refine only_bind (only_modifyGet fun _ s => refl_of G s.inner) fun fresh => ?_
            split
            · exact only_pure _
            · exact only_bind (only_within (h _)) fun _ => only_pure _

theorem only_respond
    {c : WebhookConfig} {router : Router (Activity (Reception σ))}
    (h : ∀ event, (r.process event).Only G) (hrouter : r.router? c = some router) (request : Http.Request) :
    (router.respond request).Only (Inner G) := by
  obtain ⟨routes, hroutes⟩ := exists_routes hrouter
  rw [respond_eq hrouter hroutes]
  cases aimOf c routes request with
  | ok aim => exact only_endpoint h aim.1 aim.2
  | error response => trivial

theorem returns_endpoint
    (h : ∀ event, (r.process event).Returns) (kind : NoticeKind) (request : Http.Request) :
    (r.endpoint kind request).Returns := by
  unfold endpoint
  split
  · trivial
  · refine returns_bind ?_ fun _ => trivial
    unfold receive
    cases Arrival.read? kind request.headers request.body with
    | none => trivial
    | some arrival =>
        refine returns_bind (fun _ _ => trivial) fun known => ?_
        split
        · trivial
        · split
          · trivial
          · refine returns_bind (returns_modifyGet _) fun fresh => ?_
            split
            · trivial
            · exact returns_bind (returns_zoom (h _)) fun _ => trivial

theorem returns_respond
    {c : WebhookConfig} {router : Router (Activity (Reception σ))}
    (h : ∀ event, (r.process event).Returns) (hrouter : r.router? c = some router)
    (request : Http.Request) :
    (router.respond request).Returns := by
  obtain ⟨routes, hroutes⟩ := exists_routes hrouter
  rw [respond_eq hrouter hroutes]
  cases aimOf c routes request with
  | ok aim => exact returns_endpoint h aim.1 aim.2
  | error response => trivial

end Receiver

/-- The search for keys makes the changes that the service makes when it is asked for one. -/
theorem WebhookConfig.only_resolve
    {σ : Type} {G : σ → σ → Prop} (c : WebhookConfig) {service : PaymentService (Activity σ)}
    (h : ∀ url, (service.hookKey url).Only G) :
    (c.resolve service).Only G := by
  unfold resolve
  split
  · exact only_pure _
  · cases billSecret service.billSecret c.bills with
    | error failure => exact only_pure _
    | ok bill =>
        refine only_bind ?_ fun _ => only_pure _
        unfold transactionKey
        split
        · exact only_pure _
        · exact only_pure _
        · exact only_bind (h _) fun _ => only_pure _
        · exact only_pure _

namespace Executor

variable {ω : Type} {G : Shared ω → Shared ω → Prop} {e : Executor ω}

/-- What the parts that take part in polling may do. -/
structure PollsOnly (e : Executor ω) (G : Shared ω → Shared ω → Prop) : Prop where
  history : ∀ query, (e.service.history query).Only G
  dispatcher : e.dispatcher.DoesOnly G

/-- What the parts that take part in a stop may do. -/
structure StopsOnly (e : Executor ω) (G : Shared ω → Shared ω → Prop) : Prop where
  hooks : ∀ hook ∈ e.shutdownHooks, hook.task.Only G
  plugins : ∀ plugin ∈ e.plugins, plugin.shutdown.Only G
  signal : ∀ s : Shared ω, G s s.stop

theorem PollsOnly.mono
    {G' : Shared ω → Shared ω → Prop} (h : e.PollsOnly G) (hG : ∀ s s', G s s' → G' s s') :
    e.PollsOnly G' where
  history query := only_mono (h.history query) hG
  dispatcher kind r hr event :=
    ⟨only_mono (h.dispatcher kind r hr event).1 hG, only_mono (h.dispatcher kind r hr event).2 hG⟩

namespace PollsOnly

variable [Std.Refl G] {config : PollingConfig} {clock : Nat → Instant}

theorem tick (h : e.PollsOnly G) (st : PollState) :
    ((e.poller config clock).tick st).Only G := by
  refine only_bind (only_modifyGet fun _ s => refl_of G s) fun now => ?_
  refine only_bind (h.history _) fun answer => ?_
  cases answer with
  | error failure => exact only_pure _
  | ok page =>
      dsimp only
      split
      · trivial
      · exact only_bind (h.dispatcher.feedEvents _) fun _ => only_pure _

theorem run (h : e.PollsOnly G) (moment : StopMoment) (ticks : Nat) (st : PollState) :
    ((e.poller config clock).run moment ticks st).Only G := by
  induction ticks generalizing st with
  | zero => exact Shared.only_stopRequested moment
  | succ ticks ih =>
      rw [Poller.run]
      refine only_bind (Shared.only_stopRequested moment) fun stopped => ?_
      cases stopped with
      | true => exact only_pure _
      | false =>
          refine only_bind (h.tick st) fun ended => ?_
          refine only_bind (Shared.only_pauseUnlessStopped moment _) fun paused => ?_
          cases paused with
          | true => exact only_pure _
          | false => exact ih _

end PollsOnly

namespace StopsOnly

theorem wrapUp (h : e.StopsOnly G) :
    e.wrapUp.Only G := by
  refine only_bind_of_yields (only_mapM fun hook hhook => LifecycleHook.only_call (h.hooks hook hhook))
    (LifecycleHook.yields_mapM_call h.hooks fun _ => only_pure _) fun tasks htasks => ?_
  refine only_bind (only_gather htasks) fun _ => only_bind (only_gather ?_) fun _ => only_pure _
  intro p hp
  obtain ⟨plugin, hplugin, rfl⟩ := List.mem_map.mp hp
  exact h.plugins plugin hplugin

theorem stop (h : e.StopsOnly G) :
    e.stop.Only G :=
  only_bind (only_modify fun _ s => h.signal s) fun _ => only_guarded h.wrapUp

end StopsOnly

/-- No shutdown hook and no shutdown of a plugin breaks off. -/
structure StopsSafely {σ : Type} (e : Executor σ) : Prop where
  hooks : ∀ hook ∈ e.shutdownHooks, hook.task.Returns
  plugins : ∀ plugin ∈ e.plugins, plugin.shutdown.Returns

theorem StopsSafely.returns_wrapUp (h : e.StopsSafely) :
    e.wrapUp.Returns := by
  refine returns_bind_of_yields
    (returns_mapM fun hook hhook => LifecycleHook.returns_call (h.hooks hook hhook))
    (LifecycleHook.yields_mapM_call h.hooks fun _ => trivial) fun tasks htasks => ?_
  refine returns_bind (returns_gather htasks) fun _ => returns_bind (returns_gather ?_) fun _ => trivial
  intro p hp
  obtain ⟨plugin, hplugin, rfl⟩ := List.mem_map.mp hp
  exact h.plugins plugin hplugin

/-- A stop during which nothing breaks off comes to its end. -/
theorem yields_stop (e : Executor ω) :
    e.stop.Yields fun stopped => e.StopsSafely → stopped = some () := by
  by_cases hsafe : e.StopsSafely
  · refine yields_bind (yields_true _) fun _ _ => ?_
    refine yields_mono (yields_guarded_of_returns hsafe.returns_wrapUp) fun stopped hstopped _ => ?_
    obtain ⟨_, rfl⟩ := hstopped
    rfl
  · exact yields_mono (yields_true _) fun _ _ h => absurd h hsafe

/-- What a list of things writes each of which writes its own. -/
theorem flatten_mapIdx {α ε : Type} (own : Nat → List ε) (xs : List α) :
    (xs.mapIdx fun i _ => own i).flatten = (List.range xs.length).flatMap own := by
  rw [List.flatMap_def]
  congr 1
  apply List.ext_getElem
  · simp
  · intro i hi hi'
    simp

section Traces

variable {R : Shared ω → Shared ω → Prop} [IsPreorder (Shared ω) R] {ε : Type}
variable {log : Shared ω → List ε} {t t' : Nat} {s s' : Shared ω} {w : List ε}

/-- What a hook writes, in its call or when it is run afterwards. -/
theorem trace_call
    {hook : LifecycleHook (Shared ω)} {own : List ε} (howns : hook.task.AlwaysWrites log own)
    {task : Activity (Shared ω) TaskResult}
    (h : Trace R log hook.call t s w t' s' (some task))
    {t₁ : Nat} {v : List ε} (hv : task.Writes log t₁ v) :
    w ++ v = own := by
  obtain ⟨_, _, _, _, hv⟩ := hv
  cases hook with
  | blocking work =>
      obtain ⟨result, _, _, _, _, rfl, hwork, hlast⟩ := h.bind_inv
      obtain rfl := howns _ _ _ _ _ _ (hwork.mono fun _ _ _ => trivial)
      obtain ⟨rfl, -, -, htask⟩ := hlast.pure_inv
      cases htask
      obtain ⟨rfl, -, -, -⟩ := hv.pure_inv
      rw [List.append_nil, List.append_nil]
  | suspended work =>
      obtain ⟨rfl, -, -, htask⟩ := h.pure_inv
      cases htask
      exact howns _ _ _ _ _ _ hv

/-- What hooks write in their calls, together with what is left of them to run. -/
theorem trace_mapM_call
    {hooks : List (LifecycleHook (Shared ω))} {owns : List (List ε)}
    (howns : List.Forall₂ (fun hook own => hook.task.AlwaysWrites log own) hooks owns)
    {tasks : List (Activity (Shared ω) TaskResult)}
    (h : Trace R log (hooks.mapM LifecycleHook.call) t s w t' s' (some tasks))
    {t₁ : Nat} {ws : List (List ε)}
    (hws : List.Forall₂ (fun task v => task.Writes log t₁ v) tasks ws) :
    (w ++ ws.flatten).Perm owns.flatten := by
  induction howns generalizing tasks t s w t' s' ws with
  | nil =>
      rw [List.mapM_nil] at h
      obtain ⟨rfl, -, -, htasks⟩ := h.pure_inv
      cases htasks
      cases hws
      exact .refl _
  | @cons hook own rest owns hfirst _ ih =>
      rw [List.mapM_cons] at h
      obtain ⟨task, u, _, _, _, rfl, hcall, h⟩ := h.bind_inv
      obtain ⟨others, v, _, _, _, rfl, hcalls, hlast⟩ := h.bind_inv
      obtain ⟨rfl, -, -, htasks⟩ := hlast.pure_inv
      cases htasks
      cases hws with
      | @cons _ left _ ws hleft hws =>
          have hperm := ih hcalls hws
          rw [List.flatten_cons, List.flatten_cons, ← trace_call hfirst hcall hleft, List.append_nil,
            List.append_assoc, List.append_assoc]
          exact ((List.perm_append_comm_assoc v left ws.flatten).trans
            (hperm.append_left left)).append_left u

/-- The shutdown hooks come to their ends before the plugins are shut down. -/
theorem StopsSafely.trace_wrapUp
    {x : Option Unit} (hsafe : e.StopsSafely) {hooks plugins : List (List ε)}
    (hhooks : List.Forall₂ (fun hook own => hook.task.AlwaysWrites log own) e.shutdownHooks hooks)
    (hplugins : List.Forall₂ (fun plugin own => plugin.shutdown.AlwaysWrites log own) e.plugins plugins)
    (h : Trace R log e.wrapUp t s w t' s' x) :
    x = some () ∧ ∃ v u, w = v ++ u ∧ v.Perm hooks.flatten ∧ u.Perm plugins.flatten := by
  obtain ⟨_, rfl⟩ := h.isSome_of_returns hsafe.returns_wrapUp
  obtain ⟨tasks, w₁, _, _, _, rfl, hcall, h⟩ := h.bind_inv
  obtain ⟨_, w₂, _, t₂, _, rfl, hgather, h⟩ := h.bind_inv
  obtain ⟨_, w₃, _, _, _, rfl, hplugin, hlast⟩ := h.bind_inv
  obtain ⟨rfl, -, -, -⟩ := hlast.pure_inv
  refine ⟨rfl, w₁ ++ w₂, w₃, by simp, ?_, ?_⟩
  · rcases hgather.gather_cases with ⟨_, ws, -, hws, hflat⟩ | ⟨hnone, -⟩
    · exact (hflat.append_left w₁).trans (trace_mapM_call hhooks hcall hws)
    · cases hnone
  · rcases hplugin.gather_cases with ⟨_, ws, -, hws, hflat⟩ | ⟨hnone, -⟩
    · have hsame := eq_of_writes_of_always hws (List.forall₂_map_left_iff.mpr hplugins)
      rw [← hsame]
      exact hflat
    · cases hnone

end Traces

/-- What runs in front of the installations: polling, and the stop without the closing of the service. -/
def session (e : Executor ω) (p : Poller (Shared ω)) (moment : StopMoment) (ticks : Nat) :
    Activity (Shared ω) (Option (Option Unit)) := do
  let ended ← (p.run moment ticks (.start p.config)).guarded
  if ended = some false then return none
  if ← Shared.untilStopped moment ticks then return some (← e.stop) else return none

/-- What follows a session that ends. -/
def conclude (e : Executor ω) :
    Option (Option Unit) → Activity (Shared ω) (Option (Except Failure Unit))
  | none => return none
  | some stopped => return some (← e.close stopped)

theorem pollUntilStopped_eq
    (e : Executor ω) (p : Poller (Shared ω)) (moment : StopMoment) (ticks : Nat) :
    e.pollUntilStopped p moment ticks =
      withBackground e.installations (e.session p moment ticks) >>= e.conclude := rfl

/-- The session makes the changes that polling and a stop make. -/
theorem only_session
    [Std.Refl G] {config : PollingConfig} {clock : Nat → Instant} {moment : StopMoment} {ticks : Nat}
    (hpolls : e.PollsOnly G) (hstops : e.StopsOnly G) :
    (e.session (e.poller config clock) moment ticks).Only G := by
  refine only_bind (only_guarded (hpolls.run moment ticks _)) fun ended => ?_
  split
  · exact only_pure _
  · refine only_bind (Shared.only_untilStopped moment ticks) fun stopped => ?_
    cases stopped with
    | false => exact only_pure _
    | true => exact only_bind hstops.stop fun _ => only_pure _

open Receiver

/-- What runs in front of the installations while notices are received: the responses, and the stop without
the closing of the service. -/
def serving (e : Executor ω) (c : WebhookConfig) (secrets : WebhookSecrets) (moment : StopMoment)
    (requests : List Http.Request) :
    Activity (Reception (Shared ω)) (List Http.Response × Option Unit) :=
  let receiver : Receiver (Shared ω) := ⟨secrets, e.dispatcher.processEvent⟩
  match receiver.router? c with
  | none => .crash
  | some router => do
    let responses ← answer router moment requests
    return (responses, ← within e.stop)

variable {c : WebhookConfig} {secrets : WebhookSecrets} {moment : StopMoment}
variable {requests : List Http.Request}

theorem receiveUntilStopped_eq (e : Executor ω) :
    e.receiveUntilStopped c secrets moment requests = (do
      let (responses, stopped) ← withBackground (e.installations.map within)
        (e.serving c secrets moment requests)
      return (responses, ← within (e.close stopped))) := rfl

theorem only_answer
    [IsPreorder (Shared ω) G] {router : Router (Activity (Reception (Shared ω)))}
    (h : ∀ request, (router.respond request).Only (Inner G)) (moment : StopMoment)
    (requests : List Http.Request) :
    (answer router moment requests).Only (Inner G) := by
  induction requests with
  | nil => exact only_pure _
  | cons request rest ih =>
      refine only_bind (only_within (Shared.only_stopRequested moment)) fun stopped => ?_
      split
      · exact only_pure _
      · exact only_bind (h request) fun _ => only_bind ih fun _ => only_pure _

theorem returns_answer
    {router : Router (Activity (Reception (Shared ω)))}
    (h : ∀ request, (router.respond request).Returns) (moment : StopMoment)
    (requests : List Http.Request) :
    (answer router moment requests).Returns := by
  induction requests with
  | nil => trivial
  | cons request rest ih =>
      refine returns_bind (returns_zoom (returns_modifyGet _)) fun stopped => ?_
      split
      · trivial
      · exact returns_bind (h request) fun _ => returns_bind ih fun _ => trivial

/-- Receiving makes the changes that the handlers and a stop make. -/
theorem only_serving
    [IsPreorder (Shared ω) G] (hdispatcher : e.dispatcher.DoesOnly G) (hstop : e.stop.Only G) :
    (e.serving c secrets moment requests).Only (Inner G) := by
  unfold serving
  dsimp only
  split
  · trivial
  · next router hrouter =>
    refine only_bind (only_answer (only_respond (fun event => hdispatcher.processEvent event) hrouter)
      moment requests) fun _ => ?_
    exact only_bind (only_within hstop) fun _ => only_pure _

theorem serving_eq
    {e : Executor ω} {router : Router (Activity (Reception (Shared ω)))}
    (hrouter : (⟨secrets, e.dispatcher.processEvent⟩ : Receiver (Shared ω)).router? c = some router) :
    e.serving c secrets moment requests = (do
      let responses ← answer router moment requests
      return (responses, ← within e.stop)) := by
  simp only [serving, hrouter]

theorem returns_stop (e : Executor ω) :
    e.stop.Returns :=
  returns_bind (returns_modify _) fun _ => returns_guarded _

/-- Where no handler and no filter breaks off, notices are received until the stop. -/
theorem returns_serving
    {e : Executor ω} {router : Router (Activity (Reception (Shared ω)))}
    (hrouter : (⟨secrets, e.dispatcher.processEvent⟩ : Receiver (Shared ω)).router? c = some router)
    (hdispatcher : e.dispatcher.AlwaysReturns) :
    (e.serving c secrets moment requests).Returns := by
  rw [serving_eq hrouter]
  refine returns_bind (returns_answer (returns_respond hdispatcher.processEvent hrouter) moment
    requests) fun _ => ?_
  exact returns_bind (returns_zoom e.returns_stop) fun _ => trivial

theorem yields_serving (e : Executor ω) :
    (e.serving c secrets moment requests).Yields fun x => e.StopsSafely → x.2 = some () := by
  unfold serving
  dsimp only
  split
  · trivial
  · refine yields_bind (yields_true _) fun _ _ => ?_
    exact yields_bind (yields_zoom (yields_stop e)) fun _ hstopped => hstopped

theorem only_close (h : e.service.close.Only G) (stopped : Option Unit) :
    (e.close stopped).Only G := by
  cases stopped with
  | none => exact only_pure _
  | some _ => exact only_bind (only_guarded h) fun _ => only_pure _

end Executor

end WalletEvents
