import WalletEvents.Proofs.Executor.Teardown

/-!
# The release of the client

How often an executor closes its service between its start and the end of its run.

**Results.**

* `Executor.client_released_once`: however a run ends, the service has been closed once. There
  are two exceptions. It stays open when the keys of the routes for notices cannot be
  found, and when a shutdown hook or the shutdown of a plugin breaks off.
* `Executor.client_left_open`: in both cases it does stay open.
-/

namespace WalletEvents

variable {ω α : Type}

open Activity

namespace Entry

/-- The closing of the service. -/
def isClosing : Entry → Bool
  | .closing _ => true
  | _ => false

theorem not_isClosing_of_isOfTask {entry : Entry} (h : entry.isOfTask = true) :
    entry.isClosing = false := by
  cases entry <;> simp_all [isOfTask, isClosing]

theorem not_isClosing_of_isInstall {entry : Entry} (h : entry.isInstall = true) :
    entry.isClosing = false := by
  cases entry <;> simp_all [isInstall, isClosing]

end Entry

/-- How often the service has been closed. -/
def Shared.closings (s : Shared (Chronicled ω)) : Nat := s.journal.countP Entry.isClosing

theorem Shared.closings_append
    {s s' : Shared (Chronicled ω)} {w : List Entry} (h : s'.journal = s.journal ++ w) :
    s'.closings = s.closings + w.countP Entry.isClosing := by
  rw [closings, h, List.countP_append]
  rfl

/-- The service has not been closed in between. -/
abbrev LeavesOpen : Shared (Chronicled ω) → Shared (Chronicled ω) → Prop :=
  Records fun entry => entry.isClosing = false

theorem closings_eq_of_leavesOpen {s s' : Shared (Chronicled ω)} (h : LeavesOpen s s') :
    s'.closings = s.closings := by
  obtain ⟨w, hw, hentries⟩ := h.journal
  have hnone : w.countP Entry.isClosing = 0 := by simpa using hentries
  rw [Shared.closings_append hw, hnone, Nat.add_zero]

namespace Executor

open Receiver

variable {e : Executor ω} {t t' : Nat} {s s' : Shared (Chronicled ω)}

theorem leavesOpen_of_tasks
    {p : Activity (Shared (Chronicled ω)) α} (hp : p.Only RecordsTasks) :
    p.Only LeavesOpen :=
  only_mono hp fun _ _ h => h.mono fun _ => Entry.not_isClosing_of_isOfTask

theorem leavesOpen_of_installations
    {p : Activity (Shared (Chronicled ω)) Unit} (hp : p ∈ e.chronicled.installations) :
    p.Only LeavesOpen :=
  only_mono (only_installations hp) fun _ _ h => h.mono fun _ => Entry.not_isClosing_of_isInstall

/-- A start that fails has released the client. -/
theorem closings_start
    {result : Except Failure Unit}
    (h : e.chronicled.start.run t s = (some result, t', s')) :
    s'.closings = s.closings + if result = .ok () then 0 else 1 := by
  obtain ⟨w, hw, htrace⟩ := trace_of_run Anything Shared.journal (only_start e)
    (fun _ _ h => h.journal.imp fun _ => And.left) h
  rw [Shared.closings_append hw]
  rcases trace_start htrace with ⟨rfl, rfl⟩ | ⟨⟨_, rfl⟩, _, _, rfl⟩
  · rfl
  · rfl

theorem yields_session
    {σ : Type} (e : Executor σ) (p : Poller (Shared σ)) (moment : StopMoment) (ticks : Nat) :
    (e.session p moment ticks).Yields fun x =>
      ∀ stopped, x = some stopped → e.StopsSafely → stopped = some () := by
  refine yields_bind (yields_true _) fun ended _ => ?_
  split
  · exact fun _ hnone => absurd hnone (by simp)
  · refine yields_bind (yields_true _) fun released _ => ?_
    split
    · refine yields_bind (yields_stop e) fun stopped hstopped => ?_
      rintro _ ⟨⟩
      exact hstopped
    · exact fun _ hnone => absurd hnone (by simp)

/-- Between two states the client has been released once. Otherwise it is still open, and a shutdown hook
or the shutdown of a plugin may break off. -/
def Released (e : Executor ω) (s s' : Shared (Chronicled ω)) (result : Except Failure Unit) : Prop :=
  s'.closings = s.closings + 1 ∨
  s'.closings = s.closings ∧ result = .error (.hook .crashed) ∧ ¬ e.StopsSafely

variable {result : Except Failure Unit}

theorem Released.of_eq
    {s₁ : Shared (Chronicled ω)} (h : e.Released s₁ s' result) (heq : s₁.closings = s.closings) :
    e.Released s s' result := by
  rw [Released, heq] at h
  exact h

theorem released_of_close
    {stopped : Option Unit} (hstopped : e.StopsSafely → stopped = some ())
    (h : (e.chronicled.close stopped).run t s = (some result, t', s')) :
    e.Released s s' result := by
  cases stopped with
  | none =>
      cases h
      refine .inr ⟨rfl, rfl, fun hsafe => ?_⟩
      cases hstopped hsafe
  | some _ =>
      obtain ⟨ended, t₁, s₁, closed, hrun, hjournal, hclosed⟩ := run_close e t s
      rw [hrun] at h
      cases h
      refine .inl ((Shared.closings_append hjournal).trans ?_)
      rcases hclosed with rfl | ⟨rfl, -⟩
      · rfl
      · rfl

section Polling

variable {config : PollingConfig} {clock : Nat → Instant} {moment : StopMoment} {ticks : Nat}

theorem released_of_pollUntilStopped
    (h : (e.chronicled.pollUntilStopped (e.chronicled.poller config clock) moment ticks).run t s =
      (some (some result), t', s')) :
    e.Released s s' result := by
  rw [pollUntilStopped_eq] at h
  obtain ⟨x, t₁, s₁, hsession, h⟩ := run_bind_inv h
  have hopen : LeavesOpen s s₁ :=
    (only_withBackground (fun _ => leavesOpen_of_installations)
      (leavesOpen_of_tasks only_session_chronicled)).of_run hsession
  have hyields := (yields_withBackground (yields_session e.chronicled _ moment ticks)).of_run hsession
  cases x with
  | none => cases h
  | some stopped =>
      obtain ⟨ended, t₂, s₂, hclose, hlast⟩ := run_bind_inv h
      cases hlast
      refine (released_of_close (fun hsafe => ?_) hclose).of_eq (closings_eq_of_leavesOpen hopen)
      exact hyields stopped rfl hsafe.chronicled

theorem released_of_runPolling
    (h : (e.chronicled.runPolling (e.chronicled.poller config clock) moment ticks).run t s =
      (some (some result), t', s')) :
    e.Released s s' result := by
  obtain ⟨started, t₁, s₁, hstart, h⟩ := run_bind_inv h
  have hclosings := closings_start hstart
  cases started with
  | error failure =>
      cases h
      exact .inl hclosings
  | ok _ => exact (released_of_pollUntilStopped h).of_eq hclosings

end Polling

section Receiving

variable {c : WebhookConfig} {secrets : WebhookSecrets} {moment : StopMoment}
variable {requests : List Http.Request} {responses : List Http.Response}
variable {s s' : Reception (Shared (Chronicled ω))}

theorem only_serving_chronicled :
    (e.chronicled.serving c secrets moment requests).Only (Inner LeavesOpen) := by
  have hpolls : e.chronicled.PollsOnly LeavesOpen := e.pollsOnly_chronicled.mono fun _ _ h =>
    h.mono fun _ hcall => Entry.not_isClosing_of_isOfTask (Entry.isOfTask_of_isCall hcall)
  exact only_serving hpolls.dispatcher (leavesOpen_of_tasks e.stopsOnly_chronicled.stop)

theorem leavesOpen_of_installations_within
    {p : Activity (Reception (Shared (Chronicled ω))) Unit}
    (hp : p ∈ e.chronicled.installations.map within) :
    p.Only (Inner LeavesOpen) := by
  obtain ⟨install, hinstall, rfl⟩ := List.mem_map.mp hp
  exact only_within (leavesOpen_of_installations hinstall)

/-- Whatever has run in front of the installations, the closing of the service comes next. -/
theorem released_after
    {x : α} {t₁ : Nat} {s₁ : Reception (Shared (Chronicled ω))}
    {main : Activity (Reception (Shared (Chronicled ω))) α} (stopped : α → Option Unit)
    (honly : main.Only (Inner LeavesOpen))
    (hyields : main.Yields fun x => e.chronicled.StopsSafely → stopped x = some ())
    (hmain : (withBackground (e.chronicled.installations.map within) main).run t s =
      (some x, t₁, s₁))
    (hclose : (within (e.chronicled.close (stopped x))).run t₁ s₁ = (some result, t', s')) :
    e.Released s.inner s'.inner result := by
  have hopen : Inner LeavesOpen s s₁ :=
    (only_withBackground (fun _ => leavesOpen_of_installations_within) honly).of_run hmain
  have hstopped := (yields_withBackground hyields).of_run hmain
  exact (released_of_close (fun hsafe => hstopped hsafe.chronicled) (run_within_inv hclose)).of_eq
    (closings_eq_of_leavesOpen hopen)

theorem released_of_receiveUntilStopped
    (h : (e.chronicled.receiveUntilStopped c secrets moment requests).run t s =
      (some (responses, result), t', s')) :
    e.Released s.inner s'.inner result := by
  rw [receiveUntilStopped_eq] at h
  obtain ⟨answered, t₁, s₁, hserving, h⟩ := run_bind_inv h
  obtain ⟨ended, t₂, s₂, hclose, hlast⟩ := run_bind_inv h
  cases hlast
  exact released_after Prod.snd only_serving_chronicled (yields_serving _) hserving hclose

/-- When the keys have been found the client is released like after polling. -/
theorem released_of_runWebhook
    {listening : Bool}
    (h : (e.chronicled.runWebhook c listening moment requests).run t s =
      (some (responses, result), t', s')) :
    ∃ keys t₁ s₁, (within (c.resolve e.chronicled.service)).run t s = (some keys, t₁, s₁) ∧
      match keys with
      | .error failure => result = .error failure ∧ s'.inner.closings = s.inner.closings
      | .ok _ => e.Released s.inner s'.inner result := by
  obtain ⟨keys, t₁, s₁, hkeys, h⟩ := run_bind_inv h
  refine ⟨keys, t₁, s₁, hkeys, ?_⟩
  have hopen : s₁.inner.closings = s.inner.closings :=
    closings_eq_of_leavesOpen ((only_within (c.only_resolve fun _ => only_aside _)).of_run hkeys)
  cases keys with
  | error failure =>
      cases h
      exact ⟨rfl, hopen⟩
  | ok secrets =>
      refine Released.of_eq ?_ hopen
      obtain ⟨started, t₂, s₂, hstart, h⟩ := run_bind_inv h
      have hclosings := closings_start (run_within_inv hstart)
      cases started with
      | error failure =>
          cases h
          exact .inl hclosings
      | ok _ =>
          refine Released.of_eq ?_ hclosings
          cases listening with
          | true => exact released_of_receiveUntilStopped h
          | false =>
              obtain ⟨stopped, t₃, s₃, hstop, h⟩ := run_bind_inv h
              obtain ⟨ended, t₄, s₄, hclose, hlast⟩ := run_bind_inv h
              have hreleased := released_after id (only_within (leavesOpen_of_tasks e.stopsOnly_chronicled.stop))
                (yields_zoom (yields_stop _)) hstop hclose
              cases ended with
              | error failure =>
                  cases hlast
                  exact hreleased
              | ok _ =>
                  cases hlast
                  rcases hreleased with honce | ⟨-, hfailed, -⟩
                  · exact .inl honce
                  · cases hfailed

end Receiving

/-- **The client is released once.** When a start fails, and when a run with polling or with a receiver of
notices ends, the service has been closed once since the start, with two exceptions: it stays open if the
keys of the routes are not found, and if a shutdown hook or the shutdown of a plugin breaks off. -/
theorem client_released_once (e : Executor ω) (t t' : Nat) :
    (∀ s s' result, e.chronicled.start.run t s = (some result, t', s') →
      s'.closings = s.closings + if result = .ok () then 0 else 1) ∧
    (∀ config clock moment ticks s s' result,
      (e.chronicled.pollUntilStopped (e.chronicled.poller config clock) moment ticks).run t s =
        (some (some result), t', s') → e.Released s s' result) ∧
    (∀ config clock moment ticks s s' result,
      (e.chronicled.runPolling (e.chronicled.poller config clock) moment ticks).run t s =
        (some (some result), t', s') → e.Released s s' result) ∧
    ∀ c listening moment requests s s' responses result,
      (e.chronicled.runWebhook c listening moment requests).run t s =
        (some (responses, result), t', s') →
      ∃ keys t₁ s₁, (within (c.resolve e.chronicled.service)).run t s = (some keys, t₁, s₁) ∧
        match keys with
        | .error failure => result = .error failure ∧ s'.inner.closings = s.inner.closings
        | .ok _ => e.Released s.inner s'.inner result :=
  ⟨fun _ _ _ h => closings_start h, fun _ _ _ _ _ _ _ h => released_of_pollUntilStopped h,
    fun _ _ _ _ _ _ _ h => released_of_runPolling h,
    fun _ _ _ _ _ _ _ _ h => released_of_runWebhook h⟩

/-- The state before the start. -/
def atRest : Shared (Chronicled Unit) := ⟨.empty, false, (), []⟩

/-- The hook that is called first fails. -/
def unready : Executor Unit :=
  { reluctant with startupHooks := [.blocking (return .error "not now"), .blocking .crash] }

/-- The service is closed once behind hooks and plugins that fail, and once when the start fails. -/
theorem client_released_once_of_failures :
    (∃ ended t' s', (reluctant.chronicled.runPolling
        (reluctant.chronicled.poller .usual fun _ => ⟨0, 0⟩) (some ⟨25, true⟩) 30).run 0 atRest =
          (some (some ended), t', s') ∧
      s'.closings = atRest.closings + 1) ∧
    ∃ s', unready.chronicled.start.run 0 atRest = (some (.error (.hook (.failed "not now"))), 0, s') ∧
      s'.closings = atRest.closings + 1 := by
  constructor
  · let started : Shared (Chronicled Unit) :=
      { atRest with context := Context.empty.insert Context.clientName ⟨.client, ()⟩ }
    have hstart : reluctant.chronicled.start.run 0 atRest = (some (.ok ()), 0, started) := rfl
    obtain ⟨ended, t', s', hpolling⟩ := run_pollUntilStopped_ends .usual (fun _ => ⟨0, 0⟩)
      ⟨25, true⟩ 30 0 started stopsSafely_reluctant (by decide) (by decide) (by decide) (by decide)
    have hrun := (run_runPolling hstart).trans hpolling
    refine ⟨ended, t', s', hrun, ?_⟩
    rcases (client_released_once reluctant 0 t').2.2.1 _ _ _ _ _ _ _ hrun with honce | ⟨-, -, hunsafe⟩
    · exact honce
    · exact absurd stopsSafely_reluctant hunsafe
  · obtain ⟨s', hstart⟩ : ∃ s', unready.chronicled.start.run 0 atRest =
        (some (.error (.hook (.failed "not now"))), 0, s') := ⟨_, rfl⟩
    exact ⟨s', hstart, (client_released_once unready 0 0).1 _ _ _ hstart⟩

/-- An executor that has nothing to do. -/
def idle : Executor Unit where
  service := .ofHistory fun _ => pure (.ok [])
  dispatcher := ⟨.empty, .empty, .empty⟩
  plugins := []
  startupHooks := []
  shutdownHooks := []

/-- The hook breaks off. -/
def careless : Executor Unit := { idle with shutdownHooks := [.blocking .crash] }

def shopUrl : Url where
  scheme := "https"
  authority := some ⟨"", "", .name "shop.example.com", none⟩
  path := .segments ["notices"]
  query := none
  fragment := none

/-- The key of the payment route has to be asked for, but the service does not give any. -/
def keyless : WebhookConfig :=
  { WebhookConfig.usual with
    transactions := some ⟨TransactionRoute.usual.path, none, some shopUrl⟩
    bills := none }

/-- Without keys and after a hook that breaks off a run ends with an open client. -/
theorem client_left_open :
    (∃ s', (idle.chronicled.runWebhook keyless true none []).run 0 ⟨.empty, atRest⟩ =
        (some ([], .error (.configuration (.keysUnsupported shopUrl.text))), 0, s') ∧
      s'.inner.closings = 0) ∧
    ∃ s', (careless.chronicled.runPolling (careless.chronicled.poller .usual fun _ => ⟨0, 0⟩)
        (some ⟨0, true⟩) 1).run 0 atRest = (some (some (.error (.hook .crashed))), 0, s') ∧
      s'.closings = 0 :=
  ⟨⟨_, rfl, rfl⟩, _, rfl, rfl⟩

end Executor

end WalletEvents
