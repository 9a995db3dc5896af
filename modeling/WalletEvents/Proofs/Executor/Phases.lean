import WalletEvents.Proofs.Executor.Calls

/-!
# The phases of an executor

What each phase of an executor that keeps a journal puts down: the start, polling, the
shutdown hooks with the shutdown of the plugins after them, the installations beside
all that, and the closing of the service.

**Results.**

* `Executor.trace_session`: polling, the hooks and the plugins follow one another, and
  every hook and every plugin has its turn once.
* `Executor.trace_start`, `Executor.trace_close`: a start that succeeds puts nothing
  down; the end puts down the closing of the service, once.
-/

namespace WalletEvents

variable {ω : Type}

namespace LifecycleHook

theorem task_recorded (hook : LifecycleHook (Shared ω)) (place : Nat) :
    (hook.recorded place).task = hook.task.recorded (.hook place) := by
  cases hook with
  | blocking task => rfl
  | suspended task => rfl

end LifecycleHook

namespace Executor

open Activity

/-- Every task of a round begins and ends once. -/
def round (task : Nat → Task) (n : Nat) : List Entry :=
  (List.range n).flatMap fun i => [.began (task i), .ended (task i)]

variable {R : Shared (Chronicled ω) → Shared (Chronicled ω) → Prop}
variable [IsPreorder (Shared (Chronicled ω)) R]
variable {t t' : Nat} {s s' : Shared (Chronicled ω)} {w : List Entry}

theorem StopsSafely.chronicled {e : Executor ω} (h : e.StopsSafely) :
    e.chronicled.StopsSafely where
  hooks := by
    intro hook hhook
    obtain ⟨i, hi, rfl⟩ := List.mem_mapIdx.mp hhook
    rw [LifecycleHook.task_recorded]
    exact returns_recorded (h.hooks _ (List.getElem_mem hi))
  plugins := by
    intro plugin hplugin
    obtain ⟨i, hi, rfl⟩ := List.mem_mapIdx.mp hplugin
    exact returns_recorded (h.plugins _ (List.getElem_mem hi))

/-- The shutdown hooks come to their ends before the plugins are shut down. -/
theorem trace_wrapUp_chronicled
    {e : Executor ω} {x : Option Unit} (hsafe : e.StopsSafely)
    (h : Trace R Shared.outside e.chronicled.wrapUp t s w t' s' x) :
    x = some () ∧ ∃ hooks shutdowns, w = hooks ++ shutdowns ∧
      hooks.Perm (round .hook e.shutdownHooks.length) ∧
      shutdowns.Perm (round .plugin e.plugins.length) := by
  have hwrites (task : Task) (p : Activity (Shared ω) TaskResult) :
      (p.recorded task).AlwaysWrites Shared.outside [.began task, .ended task] :=
    fun _ _ _ _ _ _ htask => htask.of_recorded
  have hhooks : List.Forall₂ (fun hook own => hook.task.AlwaysWrites Shared.outside own)
      e.chronicled.shutdownHooks
      (e.shutdownHooks.mapIdx fun i _ => [Entry.began (.hook i), .ended (.hook i)]) := by
    refine List.forall₂_iff_get.mpr ⟨by simp [chronicled], fun i hi hi' => ?_⟩
    simp only [chronicled, List.get_eq_getElem, List.getElem_mapIdx, LifecycleHook.task_recorded]
    exact hwrites _ _
  have hplugins : List.Forall₂ (fun plugin own => plugin.shutdown.AlwaysWrites Shared.outside own)
      e.chronicled.plugins
      (e.plugins.mapIdx fun i _ => [Entry.began (.plugin i), .ended (.plugin i)]) := by
    refine List.forall₂_iff_get.mpr ⟨by simp [chronicled], fun i hi hi' => ?_⟩
    simp only [chronicled, List.get_eq_getElem, List.getElem_mapIdx]
    exact hwrites _ _
  rw [round, round, ← flatten_mapIdx, ← flatten_mapIdx]
  exact hsafe.chronicled.trace_wrapUp hhooks hplugins h

/-- What the journal says of polling: whole ticks, whose calls have all ended, and after them at most one
more tick that has broken off. -/
structure PollingJournal (p : Poller (Shared (Chronicled ω))) (w : List Entry) : Prop where
  calls : ∀ entry ∈ w, entry.isCall = true
  ticks : (∃ n st, p.Ticks Shared.outside n (.start p.config) w st ∧ Balanced w) ∨
    ∃ n st v u, w = v ++ u ∧ p.Ticks Shared.outside n (.start p.config) v st ∧ Balanced v ∧
      p.TickBreaksOff Shared.outside st u

variable {e : Executor ω} {config : PollingConfig} {clock : Nat → Instant} {moment : StopMoment}
variable {ticks : Nat}

/-- Where no call of polling breaks off, all of them have ended. -/
theorem PollingJournal.balanced
    (h : PollingJournal (e.chronicled.poller config clock) w)
    (hhistory : ∀ query, (e.service.history query).Returns) (hdispatcher : e.dispatcher.AlwaysReturns) :
    Balanced w := by
  rcases h.ticks with ⟨_, _, -, hbalanced⟩ | ⟨_, _, _, _, rfl, -, hbalanced, hbroken⟩
  · exact hbalanced
  · exact hbalanced.append (balanced_of_tickBreaksOff hhistory hdispatcher hbroken)

theorem pollingJournal_of_run
    {x : Option Bool}
    (h : Trace R Shared.outside ((e.chronicled.poller config clock).run moment ticks (.start config))
      t s w t' s' x) :
    PollingJournal (e.chronicled.poller config clock) w where
  calls := h.forall_of_only (e.pollsOnly_chronicled.run moment ticks _) fun _ _ hcalls => hcalls.outside
  ticks := by
    rcases Poller.run_cases h with ⟨ended, n, st, -, hticks, -⟩ | ⟨-, n, st, v, u, rfl, hticks, hbroken⟩
    · exact .inl ⟨n, st, hticks, balanced_of_ticks hticks⟩
    · exact .inr ⟨n, st, v, u, rfl, hticks, balanced_of_ticks hticks, hbroken⟩

/-- The session ends without a stop only if nobody can stop it from outside or if it has made all its
ticks before; otherwise polling, the hooks and the plugins have followed one another. -/
theorem trace_session
    {x : Option (Option (Option Unit))} (hsafe : e.StopsSafely)
    (h : Trace R Shared.outside
      (e.chronicled.session (e.chronicled.poller config clock) moment ticks) t s w t' s' x) :
    (x = some none ∧ (moment = none ∨ ∃ s₁,
      Trace R Shared.outside ((e.chronicled.poller config clock).run moment ticks (.start config))
        t s w t' s₁ (some false))) ∨
    (x = some (some (some ())) ∧ ∃ polling hooks shutdowns, w = polling ++ hooks ++ shutdowns ∧
      PollingJournal (e.chronicled.poller config clock) polling ∧
      hooks.Perm (round .hook e.shutdownHooks.length) ∧
      shutdowns.Perm (round .plugin e.plugins.length)) := by
  obtain ⟨ended, polling, _, t₁, s₁, rfl, hpoll, h⟩ := h.bind_returns (returns_guarded _)
  obtain ⟨_, hended, hrun⟩ := hpoll.guarded_inv
  cases hended
  by_cases hall : ended = some false
  · subst hall
    rw [if_pos rfl] at h
    obtain ⟨rfl, rfl, -, rfl⟩ := h.pure_inv
    refine .inl ⟨rfl, .inr ⟨s₁, ?_⟩⟩
    rw [List.append_nil]
    exact hrun
  · rw [if_neg hall] at h
    obtain ⟨stopped, t₂, s₂, hwait, h⟩ := h.bind_silent
      (Shared.returns_untilStopped moment ticks) (Shared.only_untilStopped moment ticks)
    cases stopped with
    | false =>
        obtain ⟨rfl, -, -, rfl⟩ := h.pure_inv
        refine .inl ⟨rfl, .inl ?_⟩
        cases moment with
        | none => rfl
        | some m => cases Shared.untilStopped_some hwait
    | true =>
        obtain ⟨stopped, w₁, _, t₃, s₃, rfl, hstopped, hlast⟩ := h.bind_returns (returns_stop _)
        obtain ⟨rfl, -, -, rfl⟩ := hlast.pure_inv
        have hsilent : (Activity.modify fun _ (s : Shared (Chronicled ω)) => s.stop).Only
            (Unchanged Shared.outside) := only_modify fun _ _ => rfl
        obtain ⟨_, _, _, -, hwrap⟩ := Trace.bind_silent (returns_modify _) hsilent hstopped
        obtain ⟨_, hended, hwrap⟩ := hwrap.guarded_inv
        cases hended
        obtain ⟨rfl, hooks, shutdowns, rfl, hperm, hperm'⟩ := trace_wrapUp_chronicled hsafe hwrap
        exact .inr ⟨rfl, polling, hooks, shutdowns, by simp, pollingJournal_of_run hrun, hperm, hperm'⟩

/-- What belongs to calls, hooks and the shutdown of plugins. -/
abbrev RecordsTasks : Shared (Chronicled ω) → Shared (Chronicled ω) → Prop :=
  Records fun entry => entry.isOfTask = true

theorem stopsOnly_chronicled (e : Executor ω) :
    e.chronicled.StopsOnly RecordsTasks where
  hooks hook hhook := by
    obtain ⟨i, hi, rfl⟩ := List.mem_mapIdx.mp hhook
    rw [LifecycleHook.task_recorded]
    exact only_recorded (C := fun entry => entry.isOfTask = true) rfl rfl _
  plugins plugin hplugin := by
    obtain ⟨i, hi, rfl⟩ := List.mem_mapIdx.mp hplugin
    exact only_recorded (C := fun entry => entry.isOfTask = true) rfl rfl _
  signal _ := ⟨⟨[], by simp [Shared.stop, Shared.journal]⟩, fun _ => rfl⟩

theorem only_session_chronicled :
    (e.chronicled.session (e.chronicled.poller config clock) moment ticks).Only RecordsTasks :=
  only_session (e.pollsOnly_chronicled.mono fun _ _ h => h.mono fun _ => Entry.isOfTask_of_isCall)
    e.stopsOnly_chronicled

theorem only_announced {α : Type} (place : Nat) (p : Activity (Shared ω) α) :
    (p.announced place).Only (Records fun entry => entry.isInstallOf place = true) := by
  induction p with
  | done a => exact fun _ s => ⟨records_enter s (by simp [Entry.isInstallOf]), trivial⟩
  | crash => exact fun _ s => ⟨records_enter s (by simp [Entry.isInstallOf]), trivial⟩
  | act update next ih => exact fun t s => ⟨records_withPlain s _, ih t s.plain⟩
  | sleep ms next ih => exact fun _ s => ⟨records_enter s (by simp [Entry.isInstallOf]), ih⟩

theorem only_installations {p : Activity (Shared (Chronicled ω)) Unit}
    (h : p ∈ e.chronicled.installations) :
    p.Only (Records fun entry => entry.isInstall = true) := by
  obtain ⟨plugin, hplugin, rfl⟩ := List.mem_map.mp h
  obtain ⟨i, hi, rfl⟩ := List.mem_mapIdx.mp hplugin
  exact only_bind (only_mono (only_announced i _) fun _ _ h => h.mono fun entry hentry =>
    Entry.isInstall_of_isInstallOf hentry) fun _ => only_pure _

theorem only_callStartupHooks (hooks : List (LifecycleHook (Shared ω))) :
    (e.chronicled.callStartupHooks (hooks.map LifecycleHook.aside)).Only (Records fun _ => True) := by
  induction hooks with
  | nil => exact only_pure _
  | cons hook rest ih =>
      have htask : hook.aside.task.Only (Records fun _ => True) := by
        cases hook with
        | blocking task => exact only_aside task
        | suspended task => exact only_aside task
      refine only_bind_of_yields (LifecycleHook.only_call htask)
        (LifecycleHook.yields_call htask fun _ => only_pure _) fun task htask => ?_
      refine only_bind htask fun result => ?_
      cases result with
      | ok _ => exact ih
      | error explanation =>
          refine only_bind ?_ fun _ => only_pure _
          exact e.service.only_close_chronicled (fun _ => trivial) fun _ => trivial

theorem only_start (e : Executor ω) :
    e.chronicled.start.Only (Records fun _ => True) :=
  only_bind (only_modify fun _ _ => ⟨⟨[], by simp [Shared.journal]⟩, id⟩) fun _ =>
    only_callStartupHooks _

/-- What is put down when the service is closed. -/
theorem trace_closeService
    {service : PaymentService (Activity (Shared ω))} {x : Option (Except Failure Unit)}
    (h : Trace R Shared.journal service.chronicled.close t s w t' s' x) :
    (∃ result, x = some result ∧ w = [.closing t, .closed result]) ∨ x = none ∧ w = [.closing t] := by
  obtain ⟨_, _, _, _, _, rfl, hclosing, hrest⟩ := h.bind_returns (returns_modify _)
  obtain ⟨_, -, hentry, rfl, -, -⟩ := hclosing.modify_inv
  obtain rfl := List.append_cancel_left hentry
  rcases hrest.bind_cases with ⟨result, _, _, _, _, rfl, haside, hclosed⟩ | ⟨rfl, haside⟩
  · obtain rfl := haside.eq_nil_of_only (silent_aside _)
    obtain ⟨_, _, _, _, _, rfl, hnote, hlast⟩ := hclosed.bind_returns (returns_modify _)
    obtain ⟨_, -, hentry, rfl, -, -⟩ := hnote.modify_inv
    obtain rfl := List.append_cancel_left hentry
    obtain ⟨rfl, -, -, rfl⟩ := hlast.pure_inv
    exact .inl ⟨result, rfl, rfl⟩
  · obtain rfl := haside.eq_nil_of_only (silent_aside _)
    exact .inr ⟨rfl, rfl⟩

/-- A startup hook leaves the journal as it is, in its call and when it is run afterwards. -/
theorem trace_call_aside
    {hook : LifecycleHook (Shared ω)} {task : Activity (Shared (Chronicled ω)) TaskResult}
    (h : Trace R Shared.journal hook.aside.call t s w t' s' (some task)) :
    w = [] ∧ task.Only (Unchanged Shared.journal) := by
  cases hook with
  | blocking work =>
      obtain ⟨result, _, _, _, _, rfl, hwork, hlast⟩ := h.bind_inv
      obtain rfl := hwork.eq_nil_of_only (silent_aside work)
      obtain ⟨rfl, -, -, htask⟩ := hlast.pure_inv
      cases htask
      exact ⟨rfl, trivial⟩
  | suspended work =>
      obtain ⟨rfl, -, -, htask⟩ := h.pure_inv
      cases htask
      exact ⟨rfl, silent_aside work⟩

/-- When a startup hook fails the service is closed. -/
theorem trace_callStartupHooks
    {hooks : List (LifecycleHook (Shared ω))} {result : Except Failure Unit}
    (h : Trace R Shared.journal
      (e.chronicled.callStartupHooks (hooks.map LifecycleHook.aside)) t s w t' s' (some result)) :
    (result = .ok () ∧ w = []) ∨
      ((∃ failure, result = .error failure) ∧ ∃ time ended, w = [.closing time, .closed ended]) := by
  induction hooks generalizing t s w with
  | nil =>
      obtain ⟨rfl, -, -, hok⟩ := h.pure_inv
      cases hok
      exact .inl ⟨rfl, rfl⟩
  | cons hook rest ih =>
      obtain ⟨task, _, _, _, _, rfl, hcall, hrest⟩ := h.bind_inv
      obtain ⟨rfl, htask⟩ := trace_call_aside hcall
      obtain ⟨answer, _, _, _, _, rfl, hrun, hnext⟩ := hrest.bind_inv
      obtain rfl := hrun.eq_nil_of_only htask
      cases answer with
      | ok _ => exact ih hnext
      | error explanation =>
          obtain ⟨ended, _, _, _, _, rfl, hclose, hlast⟩ := hnext.bind_inv
          obtain ⟨rfl, -, -, hfailed⟩ := hlast.pure_inv
          cases hfailed
          rcases trace_closeService hclose with ⟨_, -, rfl⟩ | ⟨hnone, -⟩
          · exact .inr ⟨⟨_, rfl⟩, _, _, rfl⟩
          · cases hnone

/-- A start that succeeds puts nothing down, and one that fails closes the service. -/
theorem trace_start
    {result : Except Failure Unit}
    (h : Trace R Shared.journal e.chronicled.start t s w t' s' (some result)) :
    (result = .ok () ∧ w = []) ∨
      ((∃ failure, result = .error failure) ∧ ∃ time ended, w = [.closing time, .closed ended]) := by
  obtain ⟨_, w₁, w₂, _, _, rfl, hclient, hhooks⟩ := h.bind_inv
  obtain ⟨_, -, hkept, -, -, -⟩ := hclient.modify_inv
  obtain rfl : w₁ = [] := by simpa [Shared.journal] using hkept
  exact trace_callStartupHooks hhooks

/-- The end of a run that has been stopped is the closing of the service. -/
theorem trace_close
    {e : Executor ω} {x : Option (Except Failure Unit)}
    (h : Trace R Shared.journal (e.chronicled.close (some ())) t s w t' s' x) :
    ∃ result, x = some result ∧
      (w = [.closing t, .closed result] ∨ w = [.closing t] ∧ result = .error (.hook .crashed)) := by
  obtain ⟨closed, _, _, _, _, rfl, hclose, hlast⟩ := h.bind_returns (returns_guarded _)
  obtain ⟨rfl, -, -, rfl⟩ := hlast.pure_inv
  obtain ⟨_, hended, hclose⟩ := hclose.guarded_inv
  cases hended
  rw [List.append_nil]
  rcases trace_closeService hclose with ⟨result, rfl, rfl⟩ | ⟨rfl, rfl⟩
  · exact ⟨result, rfl, .inl rfl⟩
  · exact ⟨_, rfl, .inr ⟨rfl, rfl⟩⟩

/-- The closing of the service puts down what it does and never breaks off. -/
theorem run_close (e : Executor ω) (t : Nat) (s : Shared (Chronicled ω)) :
    ∃ ended t' s' closed, (e.chronicled.close (some ())).run t s = (some ended, t', s') ∧
      s'.journal = s.journal ++ .closing t :: closed ∧
      (closed = [.closed ended] ∨ closed = [] ∧ ended = .error (.hook .crashed)) := by
  have honly : (e.chronicled.close (some ())).Only (Records fun _ => True) :=
    only_close (e.service.only_close_chronicled (fun _ => trivial) fun _ => trivial) _
  obtain ⟨x, t', s', hrun⟩ : ∃ x t' s', (e.chronicled.close (some ())).run t s = (x, t', s') :=
    ⟨_, _, _, rfl⟩
  obtain ⟨w, hw, htrace⟩ := trace_of_run Anything Shared.journal honly
    (fun _ _ h => h.journal.imp fun _ => And.left) hrun
  obtain ⟨ended, rfl, rfl | ⟨rfl, rfl⟩⟩ := trace_close htrace
  · exact ⟨ended, t', s', [.closed ended], hrun, hw, .inl rfl⟩
  · exact ⟨_, t', s', [], hrun, hw, .inr ⟨rfl, rfl⟩⟩

section Runs

variable {σ : Type} {e : Executor σ} {p : Poller (Shared σ)} {s s₁ s' : Shared σ} {t₁ : Nat}

theorem run_pollUntilStopped_none
    (h : (withBackground e.installations (e.session p moment ticks)).run t s =
      (some none, t', s')) :
    (e.pollUntilStopped p moment ticks).run t s = (some none, t', s') := by
  rw [pollUntilStopped_eq, bind_eq, run_bind, h]
  rfl

theorem run_pollUntilStopped_some
    {stopped : Option Unit} {ended : Except Failure Unit}
    (h : (withBackground e.installations (e.session p moment ticks)).run t s =
      (some (some stopped), t₁, s₁))
    (hclose : (e.close stopped).run t₁ s₁ = (some ended, t', s')) :
    (e.pollUntilStopped p moment ticks).run t s = (some (some ended), t', s') := by
  rw [pollUntilStopped_eq, bind_eq, run_bind, h]
  simp only [conclude]
  rw [bind_eq, run_bind, hclose]
  rfl

/-- After a start that succeeds the executor polls until it is stopped. -/
theorem run_runPolling
    {t₀ : Nat} {s₀ : Shared σ} (h : e.start.run t₀ s₀ = (some (.ok ()), t, s)) :
    (e.runPolling p moment ticks).run t₀ s₀ = (e.pollUntilStopped p moment ticks).run t s := by
  rw [runPolling, bind_eq, run_bind, h]

end Runs

end Executor

end WalletEvents
