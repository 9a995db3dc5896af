import WalletEvents.Proofs.Executor.Release
import WalletEvents.Proofs.Webhook.Keys

/-!
# A configuration is complete or refused

What a configuration of notices lacks comes out before anything is started. Three
parts of the program have to agree on this: the search for keys, the router, and the
executor that runs them.

**Result.** `WebhookConfig.complete_or_refused` says of every configuration

* that the service is asked for a key once at most, and only if nothing else is missing;
* that keys are found just when every enabled route can have its own;
* that the router then has all the enabled routes, and no request meets a route without
  a key;
* that otherwise the executor fails as the search does, without having done anything
  else: whatever its hooks, its plugins and its handlers are, and whether or not there
  is an end point to listen on.
-/

namespace WalletEvents

open Receiver (within)

namespace Executor

variable {ω : Type} {e : Executor ω} {c : WebhookConfig} {t t' : Nat}
variable {s s' : Reception (Shared ω)} {failure : Failure}

/-- An executor that finds no keys ends there. -/
theorem run_runWebhook_of_keyless
    (h : (within (c.resolve e.service)).run t s = (some (.error failure), t', s'))
    (listening : Bool) (moment : StopMoment) (requests : List Http.Request) :
    (e.runWebhook c listening moment requests).run t s = (some ([], .error failure), t', s') := by
  rw [runWebhook, Activity.bind_eq, Activity.run_bind, h]
  rfl

end Executor

namespace WebhookConfig

/-- The router of a receiver that has been supplied with keys has the enabled routes. -/
theorem Supplied.exists_router
    {σ τ : Type} {c : WebhookConfig} {service : PaymentService (Activity σ)} {t : Nat} {s : σ}
    {secrets : WebhookSecrets}
    (h : c.Supplied service t s secrets) (hpaths : c.Acceptable)
    (process : Event → Activity τ (Except DispatchError Unit)) :
    let r : Receiver τ := ⟨secrets, process⟩
    ∃ router, r.router? c = some router ∧ r.Mounts c.mounts router ∧
      ∀ target endpoint, router.endpoint? target = some endpoint →
        ∃ kind key, endpoint = r.endpoint kind ∧ secrets.key? kind = some key := by
  intro r
  obtain ⟨routes, hroutes⟩ := Option.isSome_iff_exists.mp hpaths
  have hrouter : r.router? c =
      some ⟨routes.map fun route => (route.1, r.endpoint route.2), c.allowList⟩ := by
    rw [Receiver.router?_eq, Receiver.routes?, h.enabledPaths_eq, hroutes]
    rfl
  have hmounts := Receiver.mounts_of_router? hrouter
  rw [h.enabledPaths_eq] at hmounts
  refine ⟨_, hrouter, hmounts, fun target endpoint hendpoint => ?_⟩
  obtain ⟨path, kind, hmem, heq⟩ := hmounts.exists_of_endpoint? hendpoint
  obtain ⟨key, hkey⟩ := h.key_of_mounted hmem
  exact ⟨kind, key, heq, hkey⟩

/-- **A configuration is complete or refused.** -/
theorem complete_or_refused (c : WebhookConfig) :
    (∀ known, ∃ search : KeySearch,
      (∀ (m : Type → Type) [Monad m] [LawfulMonad m] (service : PaymentService m),
        service.billSecret = known → c.resolve service = search.follow service.hookKey) ∧
      ∀ url finish, search = .asking url finish → c.Prepared known ∧ c.AwaitsKey url) ∧
    (∀ (σ : Type) (service : PaymentService (Activity σ)) (t : Nat) (s : σ),
      (∃ secrets t' s', (c.resolve service).run t s = (some (.ok secrets), t', s')) ↔
        c.Prepared service.billSecret ∧
          ∀ route, c.transactions = some route → ∃ key, KeyFound service t s route key) ∧
    (∀ (σ : Type) (service : PaymentService (Activity σ)) t s secrets t' s',
      (c.resolve service).run t s = (some (.ok secrets), t', s') →
      c.Supplied service t s secrets ∧
      (∀ path kind, (path, kind) ∈ c.mounts → ∃ key, secrets.key? kind = some key) ∧
      ∀ (τ : Type) (process : Event → Activity τ (Except DispatchError Unit)), c.Acceptable →
        let r : Receiver τ := ⟨secrets, process⟩
        ∃ router, r.router? c = some router ∧ r.Mounts c.mounts router ∧
          ∀ target endpoint, router.endpoint? target = some endpoint →
            ∃ kind key, endpoint = r.endpoint kind ∧ secrets.key? kind = some key) ∧
    ((∀ entry ∈ c.mounts, IsPlainPath entry.1) →
      (c.Acceptable ↔ (∀ entry ∈ c.mounts, entry.1.toList.head? = some '/') ∧
        (c.mounts.map Prod.fst).Nodup)) ∧
    ∀ (ω : Type) (e : Executor ω) t s failure t' s',
      (within (c.resolve e.service)).run t s = (some (.error failure), t', s') →
      ∀ listening moment requests,
        (e.runWebhook c listening moment requests).run t s =
          (some ([], .error failure), t', s') := by
  refine ⟨fun known => ⟨c.search known, ?_, fun url finish => prepared_of_search_asking⟩, ?_, ?_,
    RoutePath.readAll?_isSome_iff_of_plain, fun ω e t s failure t' s' =>
      Executor.run_runWebhook_of_keyless⟩
  · rintro m _ _ service rfl
    exact resolve_eq c service
  · intro σ service t s
    rw [← exists_supplied_iff]
    exact exists_congr fun secrets => resolve_ok_iff
  · intro σ service t s secrets t' s' hrun
    have hsupplied := resolve_ok_iff.mp ⟨t', s', hrun⟩
    exact ⟨hsupplied, fun path kind => hsupplied.key_of_mounted,
      fun τ process hpaths => hsupplied.exists_router hpaths process⟩

/-- The service gives the key of every hook. -/
def shopService : PaymentService (Activity Unit) where
  history _ := pure (.ok [])
  hookKey _ := pure (.ok "c2VjcmV0")
  billSecret := none
  close := pure (.ok ())

/-- The key of the payment route has to be asked for, and the secret of the bill route is given. -/
def shopConfig : WebhookConfig :=
  { usual with
    transactions := some ⟨TransactionRoute.usual.path, none, some Executor.shopUrl⟩
    bills := some ⟨BillRoute.usual.path, some "s3"⟩ }

/-- All that could be started breaks off. -/
def brittle : Executor Unit :=
  { Executor.idle with
    dispatcher := ⟨⟨[⟨[], fun _ => .crash⟩], false⟩, .empty, .empty⟩
    plugins := [⟨"brittle", .crash, .crash⟩]
    startupHooks := [.blocking .crash] }

theorem complete_or_refused_of_shop :
    (∃ secrets, (shopConfig.resolve shopService).run 0 () = (some (.ok secrets), 0, ()) ∧
      ∃ router, (⟨secrets, fun _ => .crash⟩ : Receiver Unit).router? shopConfig = some router ∧
        router.routes.length = 2) ∧
    ∀ listening, (brittle.runWebhook Executor.keyless listening none []).run 0
        ⟨.empty, .empty, false, ()⟩ =
      (some ([], .error (.configuration (.keysUnsupported Executor.shopUrl.text))), 0,
        ⟨.empty, .empty, false, ()⟩) := by
  constructor
  · have hrun : (shopConfig.resolve shopService).run 0 () =
        (some (.ok ⟨some [115, 101, 99, 114, 101, 116], some (Utf8.encode "s3")⟩), 0, ()) := by
      have hkey : Signature.key "c2VjcmV0" = .ok [115, 101, 99, 114, 101, 116] := by
        decide +kernel
      have hsearch : (shopConfig.resolve shopService).run 0 () =
          (some ((Signature.key "c2VjcmV0").map (⟨some ·, some (Utf8.encode "s3")⟩)), 0, ()) := by
        rw [resolve_eq]
        rfl
      rw [hsearch, hkey]
      rfl
    have hpaths : shopConfig.Acceptable := by
      unfold Acceptable
      decide +kernel
    obtain ⟨-, -, hrouter⟩ := (complete_or_refused shopConfig).2.2.1 _ _ _ _ _ _ _ hrun
    obtain ⟨router, hrouter, hmounts, -⟩ := hrouter Unit (fun _ => .crash) hpaths
    exact ⟨_, hrun, router, hrouter, (List.Forall₂.length_eq hmounts).symm⟩
  · intro listening
    refine (complete_or_refused Executor.keyless).2.2.2.2 Unit brittle _ _ _ _ _ ?_ listening none []
    rfl

end WebhookConfig

end WalletEvents
