import WalletEvents.Proofs.Executor.Diary

/-!
# All or nothing at the start

An executor that keeps a diary is started, by itself or in front of polling or of a
receiver of notices. The diary tells how far the start has come.

**Input.** Startup hooks of any number, which work when they are called or later, answer
in any way and may break off.

**Result.** `Executor.start_all_or_nothing`: the hooks are called one after another, each
when the one before has answered well. The first that fails ends the run: after it only
the service is closed, and the failure is that of the hook whatever comes of the closing.
When all answer well, each installation begins, once, and no hook is called any more.

**The client.** It is put into the context before the first hook is called. A later hook
finds what the hooks before it have left there, which may be something else:
`Executor.client_may_be_replaced`.
-/

namespace WalletEvents

open Activity

variable {ω : Type}

/-- The client is not taken out of the context. -/
def Shared.KeepsClient (s s' : Shared ω) : Prop := s.hasClient = true → s'.hasClient = true

instance : IsPreorder (Shared ω) Shared.KeepsClient where
  refl _ := id
  trans _ _ _ h h' := h' ∘ h

/-- The hook leaves the client in the context if it is there. -/
def LifecycleHook.KeepsClient (hook : LifecycleHook (Shared ω)) : Prop :=
  hook.task.Only Shared.KeepsClient

/-- What hooks put down that are called from a place on, with the client in the context or without it, and
how the start ends with them. -/
inductive Startup :
    Nat → List (LifecycleHook (Shared ω)) → Bool → List Happening → Option (Except Failure Unit) → Prop
  | ready {place : Nat} {client : Bool} :
      Startup place [] client [] (some (.ok ()))
  /-- The hook answers well, and only then the next one is called. -/
  | next
      {place : Nat} {hook : LifecycleHook (Shared ω)} {rest : List (LifecycleHook (Shared ω))}
      {client later : Bool} {w : List Happening} {x : Option (Except Failure Unit)}
      (hkept : hook.KeepsClient → client = true → later = true)
      (hrest : Startup (place + 1) rest later w x) :
      Startup place (hook :: rest) client
        (.called place client :: .answered place (.ok ()) later :: w) x
  /-- The hook fails, and so does the start, whatever the service says when it is closed. -/
  | refused
      {place : Nat} {hook : LifecycleHook (Shared ω)} {rest : List (LifecycleHook (Shared ω))}
      {client later : Bool} {explanation : String} {closed : Except Failure Unit} :
      Startup place (hook :: rest) client
        [.called place client, .answered place (.error explanation) later, .closing, .closed closed]
        (some (.error (.hook (.failed explanation))))
  /-- The hook breaks off. -/
  | broken
      {place : Nat} {hook : LifecycleHook (Shared ω)} {rest : List (LifecycleHook (Shared ω))}
      {client : Bool} :
      Startup place (hook :: rest) client [.called place client] none
  /-- The hook fails, and the closing of the service breaks off. -/
  | brokenClosing
      {place : Nat} {hook : LifecycleHook (Shared ω)} {rest : List (LifecycleHook (Shared ω))}
      {client later : Bool} {explanation : String} :
      Startup place (hook :: rest) client
        [.called place client, .answered place (.error explanation) later, .closing] none

/-- Where no hook takes the client out of the context, each of them finds it there. -/
theorem Startup.client_eq_true
    {place : Nat} {hooks : List (LifecycleHook (Shared ω))} {client : Bool} {w : List Happening}
    {x : Option (Except Failure Unit)} (h : Startup place hooks client w x) (hclient : client = true)
    (hkeep : ∀ hook ∈ hooks, hook.KeepsClient) :
    ∀ i found, .called i found ∈ w → found = true := by
  induction h with
  | ready => simp
  | @next place hook rest client later w x hkept hrest ih =>
      intro i found hcalled
      rcases List.mem_cons.mp hcalled with heq | hcalled
      · cases heq
        exact hclient
      · refine ih (hkept (hkeep hook (by simp)) hclient) (fun other hother => ?_) i found ?_
        · exact hkeep other (by simp [hother])
        · simpa using hcalled
  | refused => simp [hclient]
  | broken => simp [hclient]
  | brokenClosing => simp [hclient]

theorem Context.get?_insert (c : Context) (name : String) (item : ContextItem) :
    (c.insert name item).get? item.type name = some item.value := by
  simp [TypedStore.get?, TypedStore.insert]

/-- Others leave the client where it is. -/
abbrev LeavesClient : Shared (Diary ω) → Shared (Diary ω) → Prop := Unchanged Shared.hasClient

variable {t t' : Nat} {s s' : Shared (Diary ω)} {w : List Happening}

theorem Activity.Trace.keepsClient
    {p : Activity (Shared ω) TaskResult} {x : Option TaskResult} (hp : p.Only Shared.KeepsClient)
    (h : Trace LeavesClient Shared.diary p.unseen t s w t' s' x) :
    s.KeepsClient s' := by
  have hunseen : p.unseen.Only Shared.KeepsClient := only_zoom hp fun _ _ hkept => hkept
  exact (h.mono fun _ _ hleft hclient => hleft.trans hclient).of_only hunseen

/-- A startup hook puts down that it is called and, unless it breaks off, what it answers. -/
theorem Activity.Trace.of_greeted
    {place : Nat} {p : Activity (Shared ω) TaskResult} {x : Option TaskResult}
    (h : Trace LeavesClient Shared.diary (p.greeted place) t s w t' s' x) :
    (p.Only Shared.KeepsClient → s.KeepsClient s') ∧
    ((∃ result, x = some result ∧
        w = [.called place s.hasClient, .answered place result s'.hasClient]) ∨
      x = none ∧ w = [.called place s.hasClient]) := by
  obtain ⟨_, _, _, _, s₂, rfl, hcalled, hrest⟩ := h.bind_returns (returns_modify _)
  obtain ⟨s₁, rfl, hbefore, hafter⟩ := hcalled.of_jot
  have hfound : s₁.hasClient = s.hasClient := hbefore
  have hclient : s₂.hasClient = s.hasClient := Eq.trans hafter hbefore
  rcases hrest.bind_cases with ⟨result, _, _, _, s₃, rfl, hwork, hanswer⟩ | ⟨rfl, hwork⟩
  · obtain rfl := hwork.eq_nil_of_only (silent_unseen p)
    obtain ⟨_, _, _, _, s₅, rfl, hanswered, hlast⟩ := hanswer.bind_returns (returns_modify _)
    obtain ⟨s₄, rfl, hbefore', hafter'⟩ := hanswered.of_jot
    obtain ⟨rfl, -, hwait, rfl⟩ := hlast.pure_inv
    have hend : s'.hasClient = s₃.hasClient := Eq.trans hwait (Eq.trans hafter' hbefore')
    have hleft : s₄.hasClient = s'.hasClient := Eq.trans hbefore' hend.symm
    refine ⟨fun hp hs => hend.trans (hwork.keepsClient hp (hclient.trans hs)), .inl ⟨result, rfl, ?_⟩⟩
    rw [hfound, hleft]
    rfl
  · obtain rfl := hwork.eq_nil_of_only (silent_unseen p)
    refine ⟨fun hp hs => hwork.keepsClient hp (hclient.trans hs), .inr ⟨rfl, ?_⟩⟩
    rw [hfound]
    rfl

namespace Executor

variable {e : Executor ω}

theorem callStartupHooks_cons
    (e : Executor ω) (hook : LifecycleHook (Shared ω)) (rest : List (LifecycleHook (Shared ω))) :
    e.callStartupHooks (hook :: rest) = (do
      match ← hook.task with
      | .ok () => e.callStartupHooks rest
      | .error explanation =>
        let _ ← e.service.close
        return .error (.hook (.failed explanation))) := hook.call_bind_run _

/-- The hooks with the places that they have. -/
def hooksFrom (place : Nat) (hooks : List (LifecycleHook (Shared ω))) :
    List (LifecycleHook (Shared (Diary ω))) :=
  hooks.mapIdx fun i hook => hook.withTask (.greeted (place + i))

theorem hooksFrom_cons
    (place : Nat) (hook : LifecycleHook (Shared ω)) (rest : List (LifecycleHook (Shared ω))) :
    hooksFrom place (hook :: rest) =
      hook.withTask (.greeted place) :: hooksFrom (place + 1) rest := by
  simp [hooksFrom, List.mapIdx_cons, Nat.add_comm, Nat.add_left_comm]

theorem startupHooks_diarist (e : Executor ω) :
    e.diarist.startupHooks = hooksFrom 0 e.startupHooks := by
  simp [diarist, hooksFrom]

theorem trace_startupHooks
    {hooks : List (LifecycleHook (Shared ω))} {place : Nat} {x : Option (Except Failure Unit)}
    (h : Trace LeavesClient Shared.diary (e.diarist.callStartupHooks (hooksFrom place hooks))
      t s w t' s' x) :
    Startup place hooks s.hasClient w x := by
  induction hooks generalizing place t s w with
  | nil =>
      obtain ⟨rfl, -, -, rfl⟩ := h.pure_inv
      exact .ready
  | cons hook rest ih =>
      rw [hooksFrom_cons, callStartupHooks_cons, LifecycleHook.task_withTask] at h
      rcases h.bind_cases with ⟨result, _, _, _, s₁, rfl, hwork, hrest⟩ | ⟨rfl, hwork⟩
      · obtain ⟨hkept, ⟨_, heq, rfl⟩ | ⟨hnone, -⟩⟩ := hwork.of_greeted
        · cases heq
          cases result with
          | ok _ => exact .next hkept (ih hrest)
          | error explanation =>
              rcases hrest.bind_cases with ⟨closed, _, _, _, _, rfl, hclose, hlast⟩ | ⟨rfl, hclose⟩
              · obtain ⟨rfl, -, -, rfl⟩ := hlast.pure_inv
                rcases PaymentService.trace_close_diarist hclose with ⟨_, -, rfl⟩ | ⟨hnone, -⟩
                · exact .refused
                · cases hnone
              · rcases PaymentService.trace_close_diarist hclose with ⟨_, hsome, -⟩ | ⟨-, rfl⟩
                · cases hsome
                · exact .brokenClosing
        · cases hnone
      · obtain ⟨-, ⟨_, hsome, -⟩ | ⟨-, rfl⟩⟩ := hwork.of_greeted
        · cases hsome
        · exact .broken

theorem trace_startup
    {x : Option (Except Failure Unit)}
    (h : Trace LeavesClient Shared.diary e.diarist.start t s w t' s' x) :
    Startup 0 e.startupHooks true w x := by
  obtain ⟨_, w₁, _, _, s₁, rfl, hclient, hhooks⟩ := h.bind_returns (returns_modify _)
  obtain ⟨s₀, -, hlog, -, hafter, -⟩ := hclient.modify_inv
  obtain rfl : w₁ = [] := by simpa [Shared.diary] using hlog
  have hfound : s₁.hasClient = true := by
    rw [hafter, Shared.hasClient, Context.get?_insert _ _ ⟨.client, ()⟩]
    rfl
  rw [startupHooks_diarist] at hhooks
  rw [← hfound]
  exact trace_startupHooks hhooks

theorem putsDown_startupHooks (hooks : List (LifecycleHook (Shared ω))) (place : Nat) :
    (e.diarist.callStartupHooks (hooksFrom place hooks)).Only (PutsDown fun _ => True) := by
  induction hooks generalizing place with
  | nil => exact only_pure _
  | cons hook rest ih =>
      rw [hooksFrom_cons, callStartupHooks_cons, LifecycleHook.task_withTask]
      refine only_bind (putsDown_greeted (fun _ => trivial) (fun _ _ => trivial) _) fun result => ?_
      cases result with
      | ok _ => exact ih (place + 1)
      | error explanation =>
          refine only_bind ?_ fun _ => only_pure _
          exact e.service.putsDown_close trivial fun _ => trivial

theorem putsDown_start (e : Executor ω) :
    e.diarist.start.Only (PutsDown fun _ => True) := by
  refine only_bind (only_modify fun _ s => ⟨[], by simp [Shared.diary]⟩) fun _ => ?_
  rw [startupHooks_diarist]
  exact putsDown_startupHooks _ _

theorem startup_of_run
    {x : Option (Except Failure Unit)} (h : e.diarist.start.run t s = (x, t', s')) :
    ∃ calls, s'.diary = s.diary ++ calls ∧ Startup 0 e.startupHooks true calls x := by
  obtain ⟨calls, hcalls, htrace⟩ := trace_of_run LeavesClient Shared.diary (putsDown_start e)
    (fun _ _ happended => happended.imp fun _ => And.left) h
  exact ⟨calls, hcalls, trace_startup htrace⟩

/-- The installations have begun, one after the other, and nothing of the start comes after them. -/
def GoesOn (e : Executor ω) (rest : List Happening) : Prop :=
  ∃ later, rest = e.installs ++ later ∧ ∀ entry ∈ later, entry.isOpening = false

/-- Nothing has been put down that has to do with a start. -/
abbrev PutsDownLater : Shared (Diary ω) → Shared (Diary ω) → Prop :=
  PutsDown fun entry => entry.isOpening = false

theorem later_polls (e : Executor ω) :
    e.diarist.PollsOnly PutsDownLater :=
  e.pollsOnly_diarist (C := fun entry => entry.isOpening = false) rfl rfl

theorem later_stops (e : Executor ω) :
    e.diarist.StopsOnly PutsDownLater :=
  e.stopsOnly_diarist (C := fun entry => entry.isOpening = false) (fun _ => rfl) fun _ => rfl

theorem later_close (e : Executor ω) (stopped : Option Unit) :
    (e.diarist.close stopped).Only PutsDownLater :=
  only_close (e.service.putsDown_close (C := fun entry => entry.isOpening = false) rfl fun _ => rfl)
    stopped

section Polling

variable {config : PollingConfig} {clock : Nat → Instant} {moment : StopMoment} {ticks : Nat}

theorem goesOn_of_pollUntilStopped
    {x : Option (Option (Except Failure Unit))}
    (h : (e.diarist.pollUntilStopped (e.diarist.poller config clock) moment ticks).run t s =
      (x, t', s')) :
    ∃ rest, s'.diary = s.diary ++ rest ∧ e.GoesOn rest := by
  rw [pollUntilStopped_eq] at h
  have hconclude : ∀ stopped, (e.diarist.conclude stopped).Only PutsDownLater := by
    intro stopped
    cases stopped with
    | none => exact only_pure _
    | some stopped => exact only_bind (later_close e stopped) fun _ => only_pure _
  obtain ⟨later, hlater, hentries⟩ := run_of_announcing e.announces_installations
    (only_session e.later_polls e.later_stops) hconclude h
  exact ⟨_, hlater, later, rfl, hentries⟩

end Polling

section Receiving

open Receiver

variable {c : WebhookConfig} {secrets : WebhookSecrets} {moment : StopMoment}
variable {requests : List Http.Request} {s s' : Reception (Shared (Diary ω))}

theorem announces_installations_within (e : Executor ω) :
    List.Forall₂ (fun p entry => p.Announces (fun s : Reception (Shared (Diary ω)) => s.inner.diary) entry)
      (e.diarist.installations.map within) e.installs := by
  have hwithin {p : Activity (Shared (Diary ω)) Unit} {entry : Happening}
      (hp : p.Announces Shared.diary entry) :
      (within p).Announces (fun s : Reception (Shared (Diary ω)) => s.inner.diary) entry :=
    announces_zoom hp fun _ _ _ happended => happended
  rw [List.forall₂_map_left_iff]
  exact e.announces_installations.imp fun _ _ => hwithin

/-- Whatever runs in front of the installations and after them, if it does not belong to a start. -/
theorem goesOn_of_background
    {α β : Type} {main : Activity (Reception (Shared (Diary ω))) α}
    {k : α → Activity (Reception (Shared (Diary ω))) β} {x : Option β}
    (hmain : main.Only (Inner PutsDownLater)) (hk : ∀ a, (k a).Only (Inner PutsDownLater))
    (h : (withBackground (e.diarist.installations.map within) main >>= k).run t s = (x, t', s')) :
    ∃ rest, s'.inner.diary = s.inner.diary ++ rest ∧ e.GoesOn rest := by
  obtain ⟨later, hlater, hentries⟩ := run_of_announcing e.announces_installations_within hmain hk h
  exact ⟨_, hlater, later, rfl, hentries⟩

theorem goesOn_of_receiveUntilStopped
    {x : Option (List Http.Response × Except Failure Unit)}
    (h : (e.diarist.receiveUntilStopped c secrets moment requests).run t s = (x, t', s')) :
    ∃ rest, s'.inner.diary = s.inner.diary ++ rest ∧ e.GoesOn rest := by
  rw [receiveUntilStopped_eq] at h
  refine goesOn_of_background (only_serving e.later_polls.dispatcher e.later_stops.stop)
    (fun answered => ?_) h
  exact only_bind (only_within (later_close e _)) fun _ => only_pure _

end Receiving

/-- What a run has put down whose start comes first. Unless the start succeeds there is nothing else, and
the run ends with the failure or breaks off. -/
def AllOrNothing
    (e : Executor ω) (before after : List Happening) (broken : Prop) (failed : Failure → Prop) : Prop :=
  ∃ calls rest outcome, after = before ++ calls ++ rest ∧
    Startup 0 e.startupHooks true calls outcome ∧
    match outcome with
    | none => rest = [] ∧ broken
    | some (.error failure) => rest = [] ∧ failed failure
    | some (.ok ()) => e.GoesOn rest

theorem allOrNothing_of_runPolling
    {config : PollingConfig} {clock : Nat → Instant} {moment : StopMoment} {ticks : Nat}
    {x : Option (Option (Except Failure Unit))}
    (h : (e.diarist.runPolling (e.diarist.poller config clock) moment ticks).run t s = (x, t', s')) :
    e.AllOrNothing s.diary s'.diary (x = none) fun failure => x = some (some (.error failure)) := by
  rcases hstart : e.diarist.start.run t s with ⟨outcome, t₁, s₁⟩
  obtain ⟨calls, hcalls, hstartup⟩ := startup_of_run hstart
  rw [runPolling, bind_eq, run_bind, hstart] at h
  cases outcome with
  | none =>
      cases h
      exact ⟨calls, [], none, by rw [hcalls, List.append_nil], hstartup, rfl, rfl⟩
  | some result =>
      cases result with
      | error failure =>
          cases h
          exact ⟨calls, [], _, by rw [hcalls, List.append_nil], hstartup, rfl, rfl⟩
      | ok _ =>
          obtain ⟨rest, hrest, hgoesOn⟩ := goesOn_of_pollUntilStopped h
          exact ⟨calls, rest, _, by rw [hrest, hcalls], hstartup, hgoesOn⟩

/-- What an executor does with a receiver of notices after it has been started. -/
def afterStart
    (e : Executor ω) (c : WebhookConfig) (secrets : WebhookSecrets) (listening : Bool)
    (moment : StopMoment) (requests : List Http.Request) :
    Activity (Reception (Shared ω)) (List Http.Response × Except Failure Unit) :=
  if listening then e.receiveUntilStopped c secrets moment requests
  else do
    let stopped ← withBackground (e.installations.map Receiver.within) (Receiver.within e.stop)
    match ← Receiver.within (e.close stopped) with
    | .error failure => return ([], .error failure)
    | .ok () => return ([], .error .machine)

theorem afterStart_listening
    (e : Executor ω) (c : WebhookConfig) (secrets : WebhookSecrets) (moment : StopMoment)
    (requests : List Http.Request) :
    e.afterStart c secrets true moment requests = e.receiveUntilStopped c secrets moment requests := rfl

section Receiving

variable {c : WebhookConfig} {secrets : WebhookSecrets} {listening : Bool} {moment : StopMoment}
variable {requests : List Http.Request} {t₁ : Nat} {s s₁ s' : Reception (Shared (Diary ω))}
variable {x : Option (List Http.Response × Except Failure Unit)}

/-- Once the keys have been found a run ends with its start or goes on from there. -/
theorem runWebhook_cases
    {outcome : Option (Except Failure Unit)} {t₂ : Nat} {s₂ : Reception (Shared (Diary ω))}
    (hkeys : (Receiver.within (c.resolve e.diarist.service)).run t s = (some (.ok secrets), t₁, s₁))
    (hstart : (Receiver.within e.diarist.start).run t₁ s₁ = (outcome, t₂, s₂))
    (h : (e.diarist.runWebhook c listening moment requests).run t s = (x, t', s')) :
    (∃ calls, s₂.inner.diary = s.inner.diary ++ calls ∧ Startup 0 e.startupHooks true calls outcome) ∧
    ((outcome = none ∧ s' = s₂ ∧ x = none) ∨
      (∃ failure, outcome = some (.error failure) ∧ s' = s₂ ∧ x = some ([], .error failure)) ∨
      outcome = some (.ok ()) ∧
        (e.diarist.afterStart c secrets listening moment requests).run t₂ s₂ = (x, t', s')) := by
  have hsame : Receiver.Inner (Unchanged Shared.diary) s s₁ :=
    (Receiver.only_within (c.only_resolve fun _ => silent_unseen _)).of_run hkeys
  obtain ⟨calls, hcalls, hstartup⟩ := startup_of_run (Receiver.run_within_inv hstart)
  rw [show s₁.inner.diary = s.inner.diary from hsame] at hcalls
  refine ⟨⟨calls, hcalls, hstartup⟩, ?_⟩
  rw [runWebhook, bind_eq, run_bind, hkeys] at h
  dsimp only at h
  rw [bind_eq, run_bind, hstart] at h
  cases outcome with
  | none =>
      cases h
      exact .inl ⟨rfl, rfl, rfl⟩
  | some result =>
      cases result with
      | error failure =>
          cases h
          exact .inr (.inl ⟨failure, rfl, rfl, rfl⟩)
      | ok _ => exact .inr (.inr ⟨rfl, h⟩)

theorem goesOn_of_afterStart
    (h : (e.diarist.afterStart c secrets listening moment requests).run t s = (x, t', s')) :
    ∃ rest, s'.inner.diary = s.inner.diary ++ rest ∧ e.GoesOn rest := by
  cases listening with
  | true => exact goesOn_of_receiveUntilStopped h
  | false =>
      refine goesOn_of_background (Receiver.only_within e.later_stops.stop) (fun stopped => ?_) h
      refine only_bind (Receiver.only_within (later_close e stopped)) fun ended => ?_
      cases ended with
      | error failure => exact only_pure _
      | ok _ => exact only_pure _

theorem allOrNothing_of_runWebhook
    (hkeys : (Receiver.within (c.resolve e.diarist.service)).run t s = (some (.ok secrets), t₁, s₁))
    (h : (e.diarist.runWebhook c listening moment requests).run t s = (x, t', s')) :
    e.AllOrNothing s.inner.diary s'.inner.diary (x = none) fun failure =>
      x = some ([], .error failure) := by
  rcases hstart : (Receiver.within e.diarist.start).run t₁ s₁ with ⟨outcome, t₂, s₂⟩
  obtain ⟨⟨calls, hcalls, hstartup⟩, hend⟩ := runWebhook_cases hkeys hstart h
  rcases hend with ⟨rfl, rfl, hbroken⟩ | ⟨failure, rfl, rfl, hfailed⟩ | ⟨rfl, hend⟩
  · exact ⟨calls, [], _, by rw [hcalls, List.append_nil], hstartup, rfl, hbroken⟩
  · exact ⟨calls, [], _, by rw [hcalls, List.append_nil], hstartup, rfl, hfailed⟩
  · obtain ⟨rest, hrest, hgoesOn⟩ := goesOn_of_afterStart hend
    exact ⟨calls, rest, _, by rw [hrest, hcalls], hstartup, hgoesOn⟩

end Receiving

/-- **All or nothing at the start.** A start by itself puts down what its hooks do, up to the first that does
not answer well. So does a run with polling or with a receiver of notices, once the keys of the routes
have been found, and it goes on only when all hooks have answered well. -/
theorem start_all_or_nothing (e : Executor ω) (t t' : Nat) :
    (∀ s s' x, e.diarist.start.run t s = (x, t', s') →
      ∃ calls, s'.diary = s.diary ++ calls ∧ Startup 0 e.startupHooks true calls x ∧
        ((∀ hook ∈ e.startupHooks, hook.KeepsClient) →
          ∀ place found, .called place found ∈ calls → found = true)) ∧
    (∀ config clock moment ticks s s' x,
      (e.diarist.pollUntilStopped (e.diarist.poller config clock) moment ticks).run t s = (x, t', s') →
      ∃ rest, s'.diary = s.diary ++ rest ∧ e.GoesOn rest) ∧
    (∀ config clock moment ticks s s' x,
      (e.diarist.runPolling (e.diarist.poller config clock) moment ticks).run t s = (x, t', s') →
      e.AllOrNothing s.diary s'.diary (x = none) fun failure => x = some (some (.error failure))) ∧
    ∀ c listening moment requests secrets t₁ s s₁ s' x,
      (Receiver.within (c.resolve e.diarist.service)).run t s = (some (.ok secrets), t₁, s₁) →
      (e.diarist.runWebhook c listening moment requests).run t s = (x, t', s') →
      e.AllOrNothing s.inner.diary s'.inner.diary (x = none) fun failure =>
        x = some ([], .error failure) := by
  refine ⟨fun s s' x h => ?_, fun _ _ _ _ _ _ _ => goesOn_of_pollUntilStopped,
    fun _ _ _ _ _ _ _ => allOrNothing_of_runPolling,
    fun _ _ _ _ _ _ _ _ _ _ => allOrNothing_of_runWebhook⟩
  obtain ⟨calls, hcalls, hstartup⟩ := startup_of_run h
  exact ⟨calls, hcalls, hstartup, hstartup.client_eq_true rfl⟩

/-- The second hook fails, the third would break off, and the service cannot be closed. -/
def forgetful : Executor Unit where
  service := { PaymentService.ofHistory fun _ => pure (.ok []) with close := pure (.error .machine) }
  dispatcher := ⟨.empty, .empty, .empty⟩
  plugins := [⟨"reports", pure (.ok ()), pure (.ok ())⟩]
  startupHooks :=
    [.suspended do
      pause 5
      return .ok (),
    .blocking (return .error "no key"),
    .blocking .crash]
  shutdownHooks := [.blocking (return .ok ())]

/-- Only bills are received, and their secret is given. -/
def billsOnly : WebhookConfig :=
  { WebhookConfig.usual with
    transactions := none
    bills := some ⟨BillRoute.usual.path, some "s3"⟩ }

/-- The state before the start, with an empty diary. -/
def beforeStart : Shared (Diary Unit) := ⟨.empty, false, (), []⟩

theorem start_all_or_nothing_of_forgetful :
    (∃ s', (forgetful.diarist.runPolling (forgetful.diarist.poller .usual fun _ => ⟨0, 0⟩) none 1).run 0
        beforeStart = (some (some (.error (.hook (.failed "no key")))), 5, s') ∧
      s'.diary = [.called 0 true, .answered 0 (.ok ()) true, .called 1 true,
        .answered 1 (.error "no key") true, .closing, .closed (.error .machine)] ∧
      forgetful.AllOrNothing beforeStart.diary s'.diary False fun failure =>
        failure = .hook (.failed "no key")) ∧
    ∃ s', (forgetful.diarist.runWebhook billsOnly true none []).run 0 ⟨.empty, beforeStart⟩ =
        (some ([], .error (.hook (.failed "no key"))), 5, s') ∧
      forgetful.AllOrNothing beforeStart.diary s'.inner.diary False fun failure =>
        failure = .hook (.failed "no key") := by
  obtain ⟨-, -, hpolling, hreceiving⟩ := start_all_or_nothing forgetful 0 5
  constructor
  · refine ⟨_, rfl, rfl, ?_⟩
    have h := hpolling .usual (fun _ => ⟨0, 0⟩) none 1 beforeStart _ _ rfl
    simpa [eq_comm] using h
  · refine ⟨_, rfl, ?_⟩
    have h := hreceiving billsOnly true none [] _ 0 ⟨.empty, beforeStart⟩ _ _ _ rfl rfl
    simpa [eq_comm] using h

/-- The first hook puts a text in the place of the client, and the second one finds no client. -/
def usurping : Executor Unit :=
  { forgetful with
    startupHooks :=
      [.blocking do
        .modify fun _ s => { s with context := s.context.insert Context.clientName ⟨.text, "wallet"⟩ }
        return .ok (),
      .suspended (return .ok ())] }

theorem client_may_be_replaced :
    ∃ s', usurping.diarist.start.run 0 beforeStart = (some (.ok ()), 0, s') ∧
      ¬ ∀ place found, .called place found ∈ s'.diary → found = true := by
  refine ⟨_, rfl, fun hall => ?_⟩
  have hfound : false = true := hall 1 false (by decide)
  cases hfound

end Executor

end WalletEvents
