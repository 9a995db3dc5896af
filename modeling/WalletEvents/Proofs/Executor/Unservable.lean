import WalletEvents.Proofs.Executor.Startup
import WalletEvents.Proofs.Executor.Setup

/-!
# Configurations that cannot be served

The search for keys refuses a configuration before anything is started. It does not look
at the paths of the routes, though: these are read when the router is built, and by then
the startup hooks have run.

**Input.** An executor that keeps a diary, a configuration of notices, and requests.

**Result.** `Executor.served_or_broken`: whatever the search for keys refuses is refused
before the first hook is called. If it finds the keys and the paths make sense, the run
receives notices and ends with the shutdown hooks, the plugins and the closing of the
service, one after the other. If the paths make no sense the run breaks off when all
startup hooks have been called, and neither a shutdown hook nor the closing follows.

`Executor.unservable_gets_past_checks` is a run of the last kind.
-/

namespace WalletEvents

open Activity

variable {ω : Type}

namespace WebhookConfig

/-- The same configuration with other paths for its routes. -/
def withPaths (c : WebhookConfig) (transactions bills : String) : WebhookConfig :=
  { c with
    transactions := c.transactions.map fun route => { route with path := transactions }
    bills := c.bills.map fun route => { route with path := bills } }

/-- The search for keys does not look at the paths. -/
theorem resolve_withPaths
    {m : Type → Type} [Monad m] (c : WebhookConfig) (transactions bills : String)
    (service : PaymentService m) :
    (c.withPaths transactions bills).resolve service = c.resolve service := by
  have hkey : transactionKey service.hookKey (c.withPaths transactions bills).transactions =
      transactionKey service.hookKey c.transactions := by
    unfold withPaths
    rcases c.transactions with - | ⟨path, - | key, - | url⟩
    · rfl
    · rfl
    · rfl
    · rfl
    · rfl
  have hsecret : billSecret service.billSecret (c.withPaths transactions bills).bills =
      billSecret service.billSecret c.bills := by
    unfold withPaths
    cases c.bills with
    | none => rfl
    | some route => rfl
  unfold resolve
  rw [hkey, hsecret]
  simp [withPaths]

/-- With the keys of all enabled routes there is a router if and only if their paths make sense. -/
theorem Supplied.isSome_router?_iff
    {σ τ : Type} {c : WebhookConfig} {service : PaymentService (Activity σ)} {t : Nat} {s : σ}
    {secrets : WebhookSecrets} (h : c.Supplied service t s secrets)
    (process : Event → Activity τ (Except DispatchError Unit)) :
    ((⟨secrets, process⟩ : Receiver τ).router? c).isSome = true ↔ c.Acceptable := by
  rw [Receiver.router?_eq, Option.isSome_map, Receiver.routes?, h.enabledPaths_eq]
  exact Iff.rfl

end WebhookConfig

namespace Executor

variable {e : Executor ω}

section Stop

variable {R : Shared (Diary ω) → Shared (Diary ω) → Prop} [IsPreorder (Shared (Diary ω)) R]
variable {t t' : Nat} {s s' : Shared (Diary ω)} {w : List Happening}

theorem alwaysWrites_heralded {α : Type} (entry : Happening) (p : Activity (Shared ω) α) :
    (p.heralded entry).AlwaysWrites Shared.diary [entry] :=
  fun _ _ _ _ _ _ h => h.of_heralded

theorem StopsSafely.trace_wrapUp_diarist
    {x : Option Unit} (hsafe : e.StopsSafely)
    (h : Trace R Shared.diary e.diarist.wrapUp t s w t' s' x) :
    x = some () ∧ ∃ hooks shutdowns, w = hooks ++ shutdowns ∧
      hooks.Perm ((List.range e.shutdownHooks.length).map .stopping) ∧
      shutdowns.Perm ((List.range e.plugins.length).map .leaving) := by
  have hhooks : List.Forall₂ (fun hook own => hook.task.AlwaysWrites Shared.diary own)
      e.diarist.shutdownHooks (e.shutdownHooks.mapIdx fun i _ => [.stopping i]) := by
    refine List.forall₂_iff_get.mpr ⟨by simp [Executor.diarist], fun i hi hi' => ?_⟩
    simp only [Executor.diarist, List.get_eq_getElem, List.getElem_mapIdx, LifecycleHook.task_withTask]
    exact alwaysWrites_heralded _ _
  have hplugins : List.Forall₂ (fun plugin own => plugin.shutdown.AlwaysWrites Shared.diary own)
      e.diarist.plugins (e.plugins.mapIdx fun i _ => [.leaving i]) := by
    refine List.forall₂_iff_get.mpr ⟨by simp [Executor.diarist], fun i hi hi' => ?_⟩
    simp only [Executor.diarist, List.get_eq_getElem, List.getElem_mapIdx]
    exact alwaysWrites_heralded _ _
  have hwrapped := hsafe.diarist.trace_wrapUp hhooks hplugins h
  rwa [flatten_mapIdx fun i => [Happening.stopping i], flatten_mapIdx fun i => [Happening.leaving i],
    ← List.map_eq_flatMap, ← List.map_eq_flatMap] at hwrapped

theorem StopsSafely.trace_stop_diarist
    {x : Option (Option Unit)} (hsafe : e.StopsSafely)
    (h : Trace R Shared.diary e.diarist.stop t s w t' s' x) :
    x = some (some ()) ∧ ∃ hooks shutdowns, w = hooks ++ shutdowns ∧
      hooks.Perm ((List.range e.shutdownHooks.length).map .stopping) ∧
      shutdowns.Perm ((List.range e.plugins.length).map .leaving) := by
  have hsilent : (Activity.modify fun _ (s : Shared (Diary ω)) => s.stop).Only
      (Unchanged Shared.diary) := only_modify fun _ _ => rfl
  obtain ⟨_, _, _, -, hwrap⟩ := Trace.bind_silent (returns_modify _) hsilent h
  obtain ⟨_, rfl, hended⟩ := hwrap.guarded_inv
  obtain ⟨rfl, hphases⟩ := hsafe.trace_wrapUp_diarist hended
  exact ⟨rfl, hphases⟩

/-- The end of a run that has been stopped is the closing of the service. -/
theorem trace_close_diarist
    {x : Option (Except Failure Unit)}
    (h : Trace R Shared.diary (e.diarist.close (some ())) t s w t' s' x) :
    ∃ ended closed, x = some ended ∧ w = .closing :: closed ∧
      (closed = [.closed ended] ∨ closed = [] ∧ ended = .error (.hook .crashed)) := by
  obtain ⟨_, _, _, _, _, rfl, hclose, hlast⟩ := h.bind_returns (returns_guarded _)
  obtain ⟨rfl, -, -, rfl⟩ := hlast.pure_inv
  obtain ⟨_, hended, hclose⟩ := hclose.guarded_inv
  cases hended
  rcases PaymentService.trace_close_diarist hclose with ⟨result, rfl, rfl⟩ | ⟨rfl, rfl⟩
  · exact ⟨result, _, rfl, rfl, .inl rfl⟩
  · exact ⟨_, [], rfl, rfl, .inr ⟨rfl, rfl⟩⟩

end Stop

open Receiver

variable {c : WebhookConfig} {secrets : WebhookSecrets} {moment : StopMoment}
variable {requests : List Http.Request} {t t' : Nat} {s s' : Reception (Shared (Diary ω))}
variable {w : List Happening}

/-- After the installations have begun notices have been handled, the shutdown hooks and then the plugins have
had their turn once, and last the service has been closed, which the result comes from. -/
structure TornDown (e : Executor ω) (rest : List Happening) (ended : Except Failure Unit) : Prop where
  exists_phases : ∃ handled hooks shutdowns closed,
    rest = e.installs ++ (handled ++ hooks ++ shutdowns ++ .closing :: closed) ∧
    (∀ entry ∈ handled, entry = .handling) ∧
    hooks.Perm ((List.range e.shutdownHooks.length).map .stopping) ∧
    shutdowns.Perm ((List.range e.plugins.length).map .leaving) ∧
    (closed = [.closed ended] ∨ closed = [] ∧ ended = .error (.hook .crashed))

/-- What is put down about a state while notices are received. -/
abbrev innerDiary (s : Reception (Shared (Diary ω))) : List Happening := s.inner.diary

theorem trace_within
    {α : Type} {p : Activity (Shared (Diary ω)) α} {x : Option α}
    (h : Trace Anything innerDiary (within p) t s w t' s' x) :
    Trace Anything Shared.diary p t s.inner w t' s'.inner x :=
  Trace.of_zoom Shared.diary (fun _ _ => rfl) h

theorem only_serving_diarist :
    (e.diarist.serving c secrets moment requests).Only (Appends innerDiary fun _ => True) :=
  only_serving (e.pollsOnly_diarist trivial trivial).dispatcher
    (e.stopsOnly_diarist (fun _ => trivial) fun _ => trivial).stop

variable {router : Router (Activity (Reception (Shared (Diary ω))))}

theorem trace_serving
    {answered : List Http.Response × Option Unit} (hsafe : e.StopsSafely)
    (hrouter : (⟨secrets, e.diarist.dispatcher.processEvent⟩ : Receiver _).router? c = some router)
    (h : Trace Anything innerDiary (e.diarist.serving c secrets moment requests) t s w t' s'
      (some answered)) :
    answered.2 = some () ∧ ∃ handled hooks shutdowns, w = handled ++ hooks ++ shutdowns ∧
      (∀ entry ∈ handled, entry = .handling) ∧
      hooks.Perm ((List.range e.shutdownHooks.length).map .stopping) ∧
      shutdowns.Perm ((List.range e.plugins.length).map .leaving) := by
  rw [serving_eq hrouter] at h
  have hanswer : (answer router moment requests).Only (Inner (PutsDown fun entry => entry = .handling)) :=
    only_answer (only_respond (fun event => (e.dispatcher.doesOnly_diarist
      (C := fun entry => entry = .handling) rfl).processEvent event) hrouter) moment requests
  obtain ⟨responses, handled, _, t₁, s₁, rfl, hfirst, h⟩ := h.bind_inv
  obtain ⟨stopped, _, _, _, _, rfl, hstop, hlast⟩ := h.bind_inv
  obtain ⟨rfl, -, -, hanswered⟩ := hlast.pure_inv
  cases hanswered
  obtain ⟨hstopped, hooks, shutdowns, rfl, hphases⟩ := hsafe.trace_stop_diarist (trace_within hstop)
  cases hstopped
  refine ⟨rfl, handled, hooks, shutdowns, by simp, ?_, hphases⟩
  exact hfirst.forall_of_only hanswer fun _ _ happended => happended

/-- With a router the run receives notices, and it is torn down when it ends. -/
theorem tornDown_of_receiving
    {responses : List Http.Response} {ended : Except Failure Unit} (hsafe : e.StopsSafely)
    (hrouter : (⟨secrets, e.diarist.dispatcher.processEvent⟩ : Receiver _).router? c = some router)
    (h : (e.diarist.receiveUntilStopped c secrets moment requests).run t s =
      (some (responses, ended), t', s')) :
    ∃ rest, s'.inner.diary = s.inner.diary ++ rest ∧ e.TornDown rest ended := by
  rw [receiveUntilStopped_eq] at h
  obtain ⟨answered, t₁, s₁, hserving, h⟩ := run_bind_inv h
  obtain ⟨_, t₂, s₂, hclose, hlast⟩ := run_bind_inv h
  cases hlast
  obtain ⟨_, _, hbefore, htrace⟩ :=
    trace_of_run_announcing e.announces_installations_within only_serving_diarist hserving
  obtain ⟨hstopped, handled, hooks, shutdowns, rfl, hhandled, hhooks, hshutdowns⟩ :=
    trace_serving hsafe hrouter htrace
  rw [hstopped] at hclose
  have honly : (e.diarist.close (some ())).Only (PutsDown fun _ => True) :=
    only_close (e.service.putsDown_close trivial fun _ => trivial) _
  obtain ⟨_, hafter, hend⟩ := trace_of_run Anything Shared.diary honly
    (fun _ _ happended => happended.imp fun _ => And.left) (run_within_inv hclose)
  obtain ⟨_, closed, hended, rfl, hclosed⟩ := trace_close_diarist hend
  cases hended
  refine ⟨_, ?_, ⟨handled, hooks, shutdowns, closed, rfl, hhandled, hhooks, hshutdowns, hclosed⟩⟩
  rw [hafter, hbefore]
  simp only [List.append_assoc]

/-- With a router the run comes to its end, if no handler and no filter breaks off. -/
theorem exists_run_receiving
    (hrouter : (⟨secrets, e.diarist.dispatcher.processEvent⟩ : Receiver _).router? c = some router)
    (hdispatcher : e.dispatcher.AlwaysReturns) (t : Nat) (s : Reception (Shared (Diary ω))) :
    ∃ answer t' s', (e.diarist.receiveUntilStopped c secrets moment requests).run t s =
      (some answer, t', s') := by
  rcases hserving : (withBackground (e.diarist.installations.map within)
    (e.diarist.serving c secrets moment requests)).run t s with ⟨x, t₁, s₁⟩
  obtain ⟨_, _, -, htrace⟩ :=
    trace_of_run_announcing e.announces_installations_within only_serving_diarist hserving
  obtain ⟨⟨responses, stopped⟩, rfl⟩ :=
    htrace.isSome_of_returns (returns_serving hrouter hdispatcher.diarist)
  have hclose : (within (e.diarist.close stopped) >>= fun ended =>
      (pure (responses, ended) : Activity (Reception (Shared (Diary ω))) _)).Returns := by
    refine returns_bind (returns_zoom ?_) fun _ => trivial
    cases stopped with
    | none => trivial
    | some _ => exact returns_bind (returns_guarded _) fun _ => trivial
  rw [receiveUntilStopped_eq, bind_eq, run_bind, hserving]
  exact exists_run_of_returns hclose t₁ s₁

/-- Without a router the run breaks off when the installations have begun. -/
theorem run_receiving_of_unservable
    {x : Option (List Http.Response × Except Failure Unit)}
    (hrouter : (⟨secrets, e.diarist.dispatcher.processEvent⟩ : Receiver _).router? c = none)
    (h : (e.diarist.receiveUntilStopped c secrets moment requests).run t s = (x, t', s')) :
    x = none ∧ s'.inner.diary = s.inner.diary ++ e.installs := by
  have hcrash : e.diarist.serving c secrets moment requests = .crash := by
    simp only [serving, hrouter]
  rw [receiveUntilStopped_eq, hcrash, bind_eq, run_bind] at h
  rcases hserving : (withBackground (e.diarist.installations.map within)
    (.crash : Activity _ (List Http.Response × Option Unit))).run t s with ⟨y, t₁, s₁⟩
  obtain ⟨v, _, hlog, htrace⟩ := trace_of_run_announcing (C := fun _ => True)
    e.announces_installations_within (by trivial) hserving
  rw [hserving] at h
  cases htrace with
  | crash =>
      cases h
      exact ⟨rfl, by rw [hlog, List.append_nil]⟩

/-- **Served or broken.** What the search for keys refuses is refused before a hook is called; but the search
does not look at the paths. Once the keys have been found the startup hooks are called in any case. If the
paths make sense the run then receives notices and is torn down, and otherwise it breaks off as it is. -/
theorem served_or_broken
    (e : Executor ω) (c : WebhookConfig) (moment : StopMoment) (requests : List Http.Request) (t : Nat)
    (s : Reception (Shared (Diary ω))) :
    (∀ transactions bills, (c.withPaths transactions bills).resolve e.diarist.service =
      c.resolve e.diarist.service) ∧
    ((∀ entry ∈ c.mounts, IsPlainPath entry.1) →
      (c.Acceptable ↔ (∀ entry ∈ c.mounts, entry.1.toList.head? = some '/') ∧
        (c.mounts.map Prod.fst).Nodup)) ∧
    (∀ failure t' s', (within (c.resolve e.diarist.service)).run t s = (some (.error failure), t', s') →
      s'.inner.diary = s.inner.diary ∧ ∀ listening,
        (e.diarist.runWebhook c listening moment requests).run t s =
          (some ([], .error failure), t', s')) ∧
    ∀ secrets t₁ s₁ outcome t₂ s₂ x t' s',
      (within (c.resolve e.diarist.service)).run t s = (some (.ok secrets), t₁, s₁) →
      (within e.diarist.start).run t₁ s₁ = (outcome, t₂, s₂) →
      (e.diarist.runWebhook c true moment requests).run t s = (x, t', s') →
      ∃ calls rest, s'.inner.diary = s.inner.diary ++ (calls ++ rest) ∧
        Startup 0 e.startupHooks true calls outcome ∧
        match outcome with
        | none => rest = [] ∧ x = none
        | some (.error failure) => rest = [] ∧ x = some ([], .error failure)
        | some (.ok ()) =>
          (c.Acceptable →
            (e.dispatcher.AlwaysReturns → ∃ answer, x = some answer) ∧
            (e.StopsSafely → ∀ responses ended, x = some (responses, ended) → e.TornDown rest ended)) ∧
          (¬ c.Acceptable → rest = e.installs ∧ x = none) := by
  refine ⟨fun transactions bills => c.resolve_withPaths transactions bills _,
    RoutePath.readAll?_isSome_iff_of_plain, fun failure t' s' hkeys => ⟨?_, fun listening => ?_⟩,
    fun secrets t₁ s₁ outcome t₂ s₂ x t' s' hkeys hstart h => ?_⟩
  · have hsame : Inner (Unchanged Shared.diary) s s' :=
      (only_within (c.only_resolve fun _ => silent_unseen _)).of_run hkeys
    exact hsame
  · exact run_runWebhook_of_keyless hkeys listening moment requests
  · have hsupplied := WebhookConfig.resolve_ok_iff.mp ⟨_, _, run_within_inv hkeys⟩
    have hrouter := hsupplied.isSome_router?_iff e.diarist.dispatcher.processEvent
    obtain ⟨⟨calls, hcalls, hstartup⟩, hend⟩ := runWebhook_cases hkeys hstart h
    rcases hend with ⟨rfl, rfl, hbroken⟩ | ⟨failure, rfl, rfl, hfailed⟩ | ⟨rfl, hend⟩
    · exact ⟨calls, [], by rw [hcalls, List.append_nil], hstartup, rfl, hbroken⟩
    · exact ⟨calls, [], by rw [hcalls, List.append_nil], hstartup, rfl, hfailed⟩
    · obtain ⟨rest, hrest, -⟩ := goesOn_of_afterStart hend
      refine ⟨calls, rest, by rw [hrest, hcalls, List.append_assoc], hstartup, ?_, ?_⟩
      · intro hpaths
        obtain ⟨router, hrouter⟩ := Option.isSome_iff_exists.mp (hrouter.mpr hpaths)
        refine ⟨fun hdispatcher => ?_, ?_⟩
        · obtain ⟨answer, _, _, hrun⟩ := exists_run_receiving hrouter hdispatcher t₂ s₂
          cases hend.symm.trans hrun
          exact ⟨answer, rfl⟩
        · rintro hsafe responses ended rfl
          obtain ⟨rest', hrest', htorn⟩ := tornDown_of_receiving hsafe hrouter hend
          rwa [List.append_cancel_left (hrest.symm.trans hrest')]
      · intro hpaths
        have hnone := Option.not_isSome_iff_eq_none.mp fun hsome => hpaths (hrouter.mp hsome)
        obtain ⟨hbroken, hrest'⟩ := run_receiving_of_unservable hnone hend
        exact ⟨List.append_cancel_left (hrest.symm.trans hrest'), hbroken⟩

/-- All hooks answer well, but the service cannot be closed. -/
def attentive : Executor Unit := { forgetful with startupHooks := [.blocking (return .ok ())] }

theorem served_or_broken_of_attentive :
    (∃ calls rest responses ended t' s',
      (attentive.diarist.runWebhook billsOnly true none []).run 0 ⟨.empty, beforeStart⟩ =
        (some (responses, ended), t', s') ∧
      s'.inner.diary = calls ++ rest ∧
      Startup 0 attentive.startupHooks true calls (some (.ok ())) ∧ attentive.TornDown rest ended) ∧
    ∃ s', (attentive.diarist.runWebhook keyless true none []).run 0 ⟨.empty, beforeStart⟩ =
        (some ([], .error (.configuration (.keysUnsupported shopUrl.text))), 0, s') ∧
      s'.inner.diary = [] := by
  constructor
  · obtain ⟨-, hplain, -, hserved⟩ := served_or_broken attentive billsOnly none [] 0 ⟨.empty, beforeStart⟩
    have hpaths : billsOnly.Acceptable := by
      refine (hplain fun entry hentry => ?_).mpr (by decide)
      obtain rfl := List.mem_singleton.mp hentry
      constructor
      · simp [BillRoute.usual]
      · decide
    have hdispatcher : attentive.dispatcher.AlwaysReturns := by
      intro kind r hr
      cases kind with
      | transaction => cases hr
      | bill => cases hr
      | error => cases hr
    have hsafe : attentive.StopsSafely := {
      hooks := by
        intro hook hhook
        obtain rfl := List.mem_singleton.mp hhook
        trivial
      plugins := by
        intro plugin hplugin
        obtain rfl := List.mem_singleton.mp hplugin
        trivial }
    rcases hrun : (attentive.diarist.runWebhook billsOnly true none []).run 0 ⟨.empty, beforeStart⟩
      with ⟨x, t', s'⟩
    obtain ⟨calls, rest, hdiary, hstartup, hservable, -⟩ := hserved _ 0 _ _ 0 _ x t' s' rfl rfl hrun
    obtain ⟨hends, htorn⟩ := hservable hpaths
    obtain ⟨⟨responses, ended⟩, rfl⟩ := hends hdispatcher
    exact ⟨calls, rest, responses, ended, t', s', rfl, hdiary, hstartup, htorn hsafe _ _ rfl⟩
  · obtain ⟨-, -, hrefused, -⟩ := served_or_broken attentive keyless none [] 0 ⟨.empty, beforeStart⟩
    obtain ⟨hdiary, hrun⟩ := hrefused _ 0 _ rfl
    exact ⟨_, hrun true, hdiary⟩

/-- The path of the route does not begin with a slash. -/
def slashless : WebhookConfig := { billsOnly with bills := some ⟨"webhooks", some "s3"⟩ }

/-- The keys are found and the hook is called, and then the run breaks off without a closing. -/
theorem unservable_gets_past_checks :
    ∃ secrets, (slashless.resolve attentive.diarist.service).run 0 beforeStart =
        (some (.ok secrets), 0, beforeStart) ∧
      (⟨secrets, attentive.diarist.dispatcher.processEvent⟩ : Receiver _).router? slashless = none ∧
      ∃ t' s', (attentive.diarist.runWebhook slashless true none []).run 0 ⟨.empty, beforeStart⟩ =
          (none, t', s') ∧
        s'.inner.diary = [.called 0 true, .answered 0 (.ok ()) true, .installing 0] := by
  refine ⟨_, rfl, rfl, ?_⟩
  rcases hrun : (attentive.diarist.runWebhook slashless true none []).run 0 ⟨.empty, beforeStart⟩
    with ⟨x, t', s'⟩
  have hstart : (within attentive.diarist.start).run 0 ⟨.empty, beforeStart⟩ =
      (some (.ok ()), 0, _) := rfl
  obtain ⟨-, ⟨hnone, -⟩ | ⟨_, herror, -⟩ | ⟨-, hend⟩⟩ := runWebhook_cases rfl hstart hrun
  · cases hnone
  · cases herror
  · rw [afterStart_listening] at hend
    obtain ⟨rfl, hdiary⟩ := run_receiving_of_unservable rfl hend
    exact ⟨t', s', rfl, hdiary⟩

end Executor

end WalletEvents
