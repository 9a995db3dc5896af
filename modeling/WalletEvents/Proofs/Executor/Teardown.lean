import WalletEvents.Proofs.Activity.Background
import WalletEvents.Proofs.Executor.Phases

/-!
# An orderly stop

An executor that keeps a journal polls until the stop signal, and stops. The journal of
such a run falls into parts, one after the other:

* the calls of polling, tick for tick, all of which have ended;
* the shutdown hooks, each of which begins and ends once;
* the shutdowns of the plugins, each of which begins and ends once;
* the closing of the service.

The installations of the plugins run beside the first three parts. They are dropped when
the service is closed and not before: until then each of them has taken every step that
was due.

**Result.** `Executor.orderly_teardown`: whatever the handlers, hooks and plugins do and
however long they take, and at whatever moment the stop signal is raised, the run ends
with such a journal, if no hook and no shutdown breaks off.
-/

namespace WalletEvents

variable {ω : Type}

open Activity

/-- The last entry about the installation of the plugin at a place. -/
def lastInstall (place : Nat) (journal : List Entry) : Option Entry :=
  (journal.filter (·.isInstallOf place)).getLast?

/-- At a time the installation of the plugin at a place is over, or asleep until a later time. -/
def InstallUpToDate (place time : Nat) (journal : List Entry) : Prop :=
  lastInstall place journal = some (.installed place) ∨
  ∃ wake, time < wake ∧ lastInstall place journal = some (.asleep place wake)

theorem lastInstall_enter
    {place : Nat} {entry : Entry} (s : Shared (Chronicled ω)) (h : entry.isInstallOf place = true) :
    lastInstall place (s.enter entry).journal = some entry := by
  simp [lastInstall, Shared.enter, Shared.journal, h]

theorem Records.unchanged_lastInstall
    {C : Entry → Prop} {s s' : Shared (Chronicled ω)} {place : Nat} (h : Records C s s')
    (hC : ∀ entry, C entry → entry.isInstallOf place = false) :
    Unchanged (fun s => lastInstall place s.journal) s s' := by
  obtain ⟨w, hw, hentries⟩ := h.journal
  have hnone : w.filter (·.isInstallOf place) = [] := by
    rw [List.filter_eq_nil_iff]
    intro entry hentry
    simp [hC entry (hentries entry hentry)]
  simp only [Unchanged, lastInstall, hw, List.filter_append, hnone, List.append_nil]

/-- An installation keeps its last entry up to date. -/
theorem alert_announced {α : Type} (place : Nat) (p : Activity (Shared ω) α) (t : Nat)
    (c : Option Entry) :
    (p.announced place >>= fun _ => pure ()).Alert (fun s => lastInstall place s.journal)
      (fun wake c => c = some (.asleep place wake)) (fun c => c = some (.installed place)) t c := by
  induction p generalizing t c with
  | done a => exact fun s _ => lastInstall_enter s (by simp [Entry.isInstallOf])
  | crash => exact fun s _ => lastInstall_enter s (by simp [Entry.isInstallOf])
  | act update next ih => exact fun s _ => ih t s.plain t _
  | sleep ms next ih =>
      exact fun s _ => ⟨lastInstall_enter s (by simp [Entry.isInstallOf]), ih (t + ms) _⟩

namespace Executor

variable {e : Executor ω} {config : PollingConfig} {clock : Nat → Instant} {moment : StopMoment}
variable {ticks t t' : Nat} {s s' : Shared (Chronicled ω)}

theorem getElem?_installations (i : Nat) :
    e.chronicled.installations[i]? = e.plugins[i]?.map fun plugin =>
      plugin.install.announced i >>= fun _ => pure () := by
  simp [installations, chronicled]
  rfl

/-- When the session ends, no installation has a step before it that was due. -/
theorem installs_upToDate
    {stopped : Option (Option Unit)}
    (h : (withBackground e.chronicled.installations
      (e.chronicled.session (e.chronicled.poller config clock) moment ticks)).run t s =
        (some stopped, t', s'))
    {place : Nat} (hplace : place < e.plugins.length) :
    InstallUpToDate place t' s'.journal := by
  have hinstall : ∀ j q, j ≠ place → e.chronicled.installations[j]? = some q →
      q.Only (Unchanged fun s => lastInstall place s.journal) := by
    intro j q hj hq
    rw [getElem?_installations] at hq
    obtain ⟨plugin, -, rfl⟩ := Option.map_eq_some_iff.mp hq
    refine only_bind (only_mono (only_announced j _) fun _ _ h => ?_) fun _ => only_pure _
    refine h.unchanged_lastInstall fun entry hentry => ?_
    cases entry <;> simp_all [Entry.isInstallOf]
  have hsession : (e.chronicled.session (e.chronicled.poller config clock) moment ticks).Only
      (Unchanged fun s => lastInstall place s.journal) := by
    refine only_mono only_session_chronicled fun _ _ h => h.unchanged_lastInstall fun entry hentry => ?_
    exact Entry.not_isInstallOf_of_isOfTask hentry
  obtain ⟨w, -, htrace⟩ := trace_of_run (Unchanged fun s => lastInstall place s.journal)
    (fun _ => ([] : List Unit)) (only_true _) (fun _ _ _ => ⟨[], rfl⟩) h
  have hp : e.chronicled.installations[place]? = some
      (e.plugins[place].install.announced place >>= fun _ => pure ()) := by
    rw [getElem?_installations, List.getElem?_eq_getElem hplace]
    rfl
  exact htrace.not_overdue hp (alert_announced place _) hinstall hsession fun _ _ => rfl

/-- The parts of what an executor has put down from the beginning of polling on. -/
structure Phases where
  /-- Everything before the service is closed, the entries about installations among it. -/
  before : List Entry
  polling : List Entry
  hooks : List Entry
  shutdowns : List Entry
  /-- When the installations are dropped and the service is closed. -/
  time : Nat
  /-- What comes after the call that closes the service. -/
  closed : List Entry

/-- The parts of a journal are those of an orderly stop, with the result of it. -/
structure Phases.Orderly (ph : Phases) (e : Executor ω) (p : Poller (Shared (Chronicled ω)))
    (journal : List Entry) (result : Except Failure Unit) : Prop where
  /-- The closing of the service comes last. -/
  journal_eq : journal = ph.before ++ .closing ph.time :: ph.closed
  /-- Beside the installations there are polling, the hooks and the plugins, one after the other. -/
  before_eq : ph.before.filter (fun entry => !entry.isInstall) =
    ph.polling ++ ph.hooks ++ ph.shutdowns
  polling : PollingJournal p ph.polling
  /-- The last tick too has ended its calls, if none of them breaks off. -/
  balanced : (∀ query, (e.service.history query).Returns) → e.dispatcher.AlwaysReturns →
    Balanced ph.polling
  hooks : ph.hooks.Perm (round .hook e.shutdownHooks.length)
  shutdowns : ph.shutdowns.Perm (round .plugin e.plugins.length)
  /-- No installation has been dropped earlier. -/
  installs : ∀ place < e.plugins.length, InstallUpToDate place ph.time ph.before
  closed : ph.closed = [.closed result] ∨ ph.closed = [] ∧ result = .error (.hook .crashed)
  ok_iff : result = .ok () ↔ .closed (.ok ()) ∈ ph.closed

/-- The session writes down a journal and never breaks off. -/
theorem run_session
    {x : Option (Option (Option Unit))}
    (h : (withBackground e.chronicled.installations
      (e.chronicled.session (e.chronicled.poller config clock) moment ticks)).run t s = (x, t', s')) :
    ∃ w, s'.outside = s.outside ++ w ∧
      Trace (Records fun _ => True) Shared.outside
        (e.chronicled.session (e.chronicled.poller config clock) moment ticks) t s w t' s' x := by
  have hinstalls : ∀ p ∈ e.chronicled.installations, p.Only (Records fun _ => True) :=
    fun p hp => only_mono (only_installations hp) fun _ _ h => h.mono fun _ _ => trivial
  have hsession : (e.chronicled.session (e.chronicled.poller config clock) moment ticks).Only
      (Records fun _ => True) :=
    only_mono only_session_chronicled fun _ _ h => h.mono fun _ _ => trivial
  obtain ⟨w, hw, htrace⟩ := trace_of_run (Records fun _ => True) Shared.outside
    (only_withBackground hinstalls hsession)
    (fun _ _ h => h.outside.imp fun _ => And.left) h
  refine ⟨w, hw, htrace.of_withBackground hinstalls fun p hp => ?_⟩
  exact only_mono (only_installations hp) fun _ _ h => h.unchanged_outside fun _ => id

/-- A start that succeeds leaves the journal as it is. -/
theorem journal_of_start
    {t₀ : Nat} {s₀ : Shared (Chronicled ω)}
    (h : e.chronicled.start.run t₀ s₀ = (some (.ok ()), t, s)) :
    s.journal = s₀.journal := by
  obtain ⟨w, hw, htrace⟩ := trace_of_run Anything Shared.journal (only_start e)
    (fun _ _ h => h.journal.imp fun _ => And.left) h
  rcases trace_start htrace with ⟨-, rfl⟩ | ⟨⟨_, hfailed⟩, -⟩
  · rw [hw, List.append_nil]
  · cases hfailed

/-- A session that may use enough ticks does not end before it is stopped. -/
theorem session_stops
    {m : OutsideStop} {x : Option (Option (Option Unit))} {w : List Entry} (hsafe : e.StopsSafely)
    (hpos : 0 < ticks) (hmoment : m.time ≤ t + ticks)
    (hrefetch : 0 < config.refetchTimeout.milliseconds)
    (hbackoff : 0 < config.backoffTimeout.milliseconds)
    (h : Trace (Records fun _ => True) Shared.outside
      (e.chronicled.session (e.chronicled.poller config clock) (some m) ticks) t s w t' s' x) :
    x = some (some (some ())) := by
  rcases trace_session hsafe h with ⟨-, hnobody⟩ | ⟨hstopped, -⟩
  · obtain hnone | ⟨_, hrun⟩ := hnobody
    · cases hnone
    · obtain ⟨hlong, hbefore⟩ := Poller.run_false (p := e.chronicled.poller config clock)
        hrefetch hbackoff hrun
      have hearly := hbefore hpos
      omega
  · exact hstopped

/-- So polling with enough ticks comes to its end. -/
theorem run_pollUntilStopped_ends
    (config : PollingConfig) (clock : Nat → Instant) (m : OutsideStop) (ticks t : Nat)
    (s : Shared (Chronicled ω)) (hsafe : e.StopsSafely) (hpos : 0 < ticks)
    (hmoment : m.time ≤ t + ticks) (hrefetch : 0 < config.refetchTimeout.milliseconds)
    (hbackoff : 0 < config.backoffTimeout.milliseconds) :
    ∃ ended t' s',
      (e.chronicled.pollUntilStopped (e.chronicled.poller config clock) (some m) ticks).run t s =
        (some (some ended), t', s') := by
  obtain ⟨x, t₁, s₁, hsession⟩ : ∃ x t₁ s₁, (withBackground e.chronicled.installations
      (e.chronicled.session (e.chronicled.poller config clock) (some m) ticks)).run t s =
        (x, t₁, s₁) := ⟨_, _, _, rfl⟩
  obtain ⟨w, -, htrace⟩ := run_session hsession
  obtain rfl := session_stops hsafe hpos hmoment hrefetch hbackoff htrace
  obtain ⟨ended, t', s', closed, hclose, -, -⟩ := run_close e t₁ s₁
  exact ⟨ended, t', s', run_pollUntilStopped_some hsession hclose⟩

/-- **An orderly stop.** From the beginning of polling on, the journal of a run that ends has the parts of an
orderly stop. The run ends if the stop signal is raised at some moment and the allowed ticks last until
then; without an end all ticks have been made. The same holds of a run that also starts the executor. -/
theorem orderly_teardown
    (e : Executor ω) (config : PollingConfig) (clock : Nat → Instant) (moment : StopMoment)
    (ticks t : Nat) (s : Shared (Chronicled ω)) (hempty : s.journal = [])
    (hsafe : e.StopsSafely) :
    ∃ result t' s',
      (e.chronicled.pollUntilStopped (e.chronicled.poller config clock) moment ticks).run t s =
        (some result, t', s') ∧
      (∀ ended, result = some ended → ∃ ph : Phases,
        ph.Orderly e (e.chronicled.poller config clock) s'.journal ended) ∧
      (result = none → moment = none ∨ ∃ st, (e.chronicled.poller config clock).Ticks Shared.outside
        ticks (.start config) s'.outside st) ∧
      (∀ m, moment = some m → 0 < ticks → m.time ≤ t + ticks →
        0 < config.refetchTimeout.milliseconds → 0 < config.backoffTimeout.milliseconds →
        ∃ ended, result = some ended) ∧
      ∀ t₀ s₀, e.chronicled.start.run t₀ s₀ = (some (.ok ()), t, s) →
        s.journal = s₀.journal ∧
        (e.chronicled.runPolling (e.chronicled.poller config clock) moment ticks).run t₀ s₀ =
          (some result, t', s') := by
  obtain ⟨x, t₁, s₁, hsession⟩ : ∃ x t₁ s₁, (withBackground e.chronicled.installations
      (e.chronicled.session (e.chronicled.poller config clock) moment ticks)).run t s = (x, t₁, s₁) :=
    ⟨_, _, _, rfl⟩
  obtain ⟨w, hw, htrace⟩ := run_session hsession
  have houtside : s.outside = [] := by rw [Shared.outside, hempty, List.filter_nil]
  have hstart : ∀ {y}, (e.chronicled.pollUntilStopped (e.chronicled.poller config clock) moment
      ticks).run t s = y → ∀ t₀ s₀, e.chronicled.start.run t₀ s₀ = (some (.ok ()), t, s) →
        s.journal = s₀.journal ∧
        (e.chronicled.runPolling (e.chronicled.poller config clock) moment ticks).run t₀ s₀ = y :=
    fun hrun t₀ s₀ h => ⟨journal_of_start h, (run_runPolling h).trans hrun⟩
  rcases trace_session hsafe htrace with ⟨rfl, hnobody⟩ |
    ⟨rfl, polling, hooks, shutdowns, rfl, hpolling, hhooks', hshutdowns⟩
  · have hrun := run_pollUntilStopped_none hsession
    refine ⟨none, t₁, s₁, hrun, by simp, ?_, ?_, hstart hrun⟩
    · intro _
      refine hnobody.imp_right ?_
      rintro ⟨_, hrun⟩
      obtain ⟨st, hticks⟩ := Poller.ticks_of_unstopped hrun
      refine ⟨st, ?_⟩
      rw [hw, houtside]
      exact hticks
    · rintro m rfl hpos hmoment hrefetch hbackoff
      cases session_stops hsafe hpos hmoment hrefetch hbackoff htrace
  · obtain ⟨ended, t', s', closed, hclose, hjournal, hclosed⟩ := run_close e t₁ s₁
    have hrun := run_pollUntilStopped_some hsession hclose
    refine ⟨some ended, t', s', hrun, ?_, by simp, by simp, hstart hrun⟩
    rintro _ ⟨⟩
    refine ⟨⟨s₁.journal, polling, hooks, shutdowns, t₁, closed⟩, ?_⟩
    exact {
      journal_eq := hjournal
      before_eq := by
        rw [houtside, List.nil_append] at hw
        exact hw
      polling := hpolling
      balanced := hpolling.balanced
      hooks := hhooks'
      shutdowns := hshutdowns
      installs := fun place hplace => installs_upToDate hsession hplace
      closed := hclosed
      ok_iff := by
        rcases hclosed with rfl | ⟨rfl, rfl⟩
        · simp [eq_comm]
        · simp }

/-- The history is empty, the hooks and the plugin take their time to fail, and the plugin is stopped before
it is ready. -/
def reluctant : Executor Unit where
  service := .ofHistory fun _ => pure (.ok [])
  dispatcher := ⟨.empty, .empty, .empty⟩
  plugins := [{
    name := "reports"
    install := do
      pause 10000
      return .ok ()
    shutdown := do
      pause 3
      return .error "reports are missing" }]
  startupHooks := []
  shutdownHooks :=
    [.suspended do
      pause 5
      return .error "not yet",
    .blocking (return .ok ())]

theorem stopsSafely_reluctant : reluctant.StopsSafely where
  hooks := by
    intro hook hhook
    rcases List.mem_pair.mp hhook with rfl | rfl
    · trivial
    · trivial
  plugins := by
    intro plugin hplugin
    obtain rfl := List.mem_singleton.mp hplugin
    trivial

theorem orderly_teardown_of_reluctant :
    reluctant.StopsSafely ∧ ∃ ended t' s',
      (reluctant.chronicled.runPolling (reluctant.chronicled.poller .usual fun _ => ⟨0, 0⟩)
        (some ⟨25, true⟩) 30).run 0 ⟨.empty, false, (), []⟩ = (some (some ended), t', s') ∧
      ∃ ph : Phases, ph.Orderly reluctant (reluctant.chronicled.poller .usual fun _ => ⟨0, 0⟩)
        s'.journal ended := by
  have hsafe := stopsSafely_reluctant
  refine ⟨hsafe, ?_⟩
  let started : Context := Context.empty.insert Context.clientName ⟨.client, ()⟩
  obtain ⟨result, t', s', hrun, horderly, -, hends, hstart⟩ :=
    orderly_teardown reluctant .usual (fun _ => ⟨0, 0⟩) (some ⟨25, true⟩) 30 0
      ⟨started, false, (), []⟩ rfl hsafe
  obtain ⟨ended, rfl⟩ := hends ⟨25, true⟩ rfl (by decide) (by decide) (by decide) (by decide)
  obtain ⟨-, hwhole⟩ := hstart 0 ⟨.empty, false, (), []⟩ rfl
  exact ⟨ended, t', s', hwhole, horderly ended rfl⟩

end Executor

end WalletEvents
