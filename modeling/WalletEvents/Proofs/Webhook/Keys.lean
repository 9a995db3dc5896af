import WalletEvents.Proofs.Webhook.Authenticity
import WalletEvents.Proofs.Webhook.Paths

/-!
# The keys of a configuration

What `WebhookConfig.resolve` finds, for any service that gives keys.

* **Requests.** It is a search that is settled at once or by one request to the
  service, as `WebhookConfig.resolve_eq` says. The request is made when nothing else
  is missing.
* **Success.** `WebhookConfig.resolve_ok_iff` says which keys are found, and
  `WebhookConfig.exists_supplied_iff` what has to be there for it.
* **Routes.** When the keys have been found, every enabled route has its own, and if
  the paths are accepted the router has these routes and no others.
-/

namespace WalletEvents

/-- How keys are found: without the service, or by one request for the key of a hook. -/
inductive KeySearch where
  | settled (result : Except Failure WebhookSecrets)
  | asking (url : Url) (finish : Except Failure String → Except Failure WebhookSecrets)

namespace KeySearch

/-- The search, with what a service answers. -/
def follow {m : Type → Type} [Monad m] (hookKey : Url → m (Except Failure String)) :
    KeySearch → m (Except Failure WebhookSecrets)
  | .settled result => pure result
  | .asking url finish => do return finish (← hookKey url)

/-- The search when the secret of the bill route has been found. -/
def ofRoute (bill : Option (List UInt8)) : Option TransactionRoute → KeySearch
  | none => .settled (.ok ⟨none, bill⟩)
  | some route =>
    match route.keyBase64, route.publicUrl with
    | some text, _ => .settled ((Signature.key text).map (⟨some ·, bill⟩))
    | none, some url => .asking url fun answer => (answer.bind Signature.key).map (⟨some ·, bill⟩)
    | none, none => .settled (.error (.configuration .noTransactionKey))

end KeySearch

namespace WebhookConfig

/-- The search for the keys of a configuration; the secret of bills may be known. -/
def search (c : WebhookConfig) (known : Option String) : KeySearch :=
  if c.transactions.isNone && c.bills.isNone then .settled (.error (.configuration .noRoute))
  else
    match billSecret known c.bills with
    | .error failure => .settled (.error failure)
    | .ok bill => .ofRoute bill c.transactions

theorem resolve_eq
    {m : Type → Type} [Monad m] [LawfulMonad m] (c : WebhookConfig) (service : PaymentService m) :
    c.resolve service = (c.search service.billSecret).follow service.hookKey := by
  have hmap : ∀ (answer : Except Failure (List UInt8)) bill,
      (answer.map some).map (⟨·, bill⟩ : _ → WebhookSecrets) = answer.map (⟨some ·, bill⟩) := by
    intro answer bill
    cases answer <;> rfl
  unfold resolve search
  split
  · simp [KeySearch.follow]
  · cases billSecret service.billSecret c.bills with
    | error failure => simp [KeySearch.follow]
    | ok bill =>
        rcases c.transactions with _ | ⟨path, _ | text, _ | url⟩ <;>
          simp [transactionKey, KeySearch.ofRoute, KeySearch.follow, hmap] <;> rfl

/-- The secret of a bill route is given, or it is known. -/
def SecretFound (known : Option String) (route : BillRoute) (secret : List UInt8) : Prop :=
  ∃ text, route.secret.or known = some text ∧ secret = Utf8.encode text

/-- The key of a payment route is given, or the service gives it from a time and a state on. -/
def KeyFound
    {σ : Type} (service : PaymentService (Activity σ)) (t : Nat) (s : σ) (route : TransactionRoute)
    (key : List UInt8) : Prop :=
  (∃ text, route.keyBase64 = some text ∧ Signature.key text = .ok key) ∨
    route.keyBase64 = none ∧ ∃ url text t' s', route.publicUrl = some url ∧
      (service.hookKey url).run t s = (some (.ok text), t', s') ∧ Signature.key text = .ok key

/-- The keys are those of the enabled routes. -/
structure Supplied
    {σ : Type} (c : WebhookConfig) (service : PaymentService (Activity σ)) (t : Nat) (s : σ)
    (secrets : WebhookSecrets) : Prop where
  enabled : c.transactions ≠ none ∨ c.bills ≠ none
  transaction : Option.Rel (KeyFound service t s) c.transactions secrets.transactionKey
  bill : Option.Rel (SecretFound service.billSecret) c.bills secrets.billSecret

/-- All that is needed is there, but for the key of the payment route. -/
structure Prepared (c : WebhookConfig) (known : Option String) : Prop where
  enabled : c.transactions ≠ none ∨ c.bills ≠ none
  secret : ∀ route, c.bills = some route → route.secret ≠ none ∨ known ≠ none

/-- The key of the payment route is to be had from the service, for this address. -/
def AwaitsKey (c : WebhookConfig) (url : Url) : Prop :=
  ∃ path, c.transactions = some ⟨path, none, some url⟩

variable {c : WebhookConfig} {known : Option String} {bills : Option BillRoute}
variable {bill : Option (List UInt8)}

theorem enabled_iff :
    (c.transactions.isNone && c.bills.isNone) = false ↔
      c.transactions ≠ none ∨ c.bills ≠ none := by
  cases c.transactions <;> cases c.bills <;> simp

theorem secretFound_iff {route : BillRoute} :
    (∃ secret, SecretFound known route secret) ↔ route.secret ≠ none ∨ known ≠ none := by
  unfold SecretFound
  cases route.secret <;> cases known <;> simp

theorem billSecret_eq_ok_iff :
    billSecret known bills = .ok bill ↔ Option.Rel (SecretFound known) bills bill := by
  cases bills with
  | none => cases bill <;> simp [billSecret]
  | some route =>
      cases hfound : route.secret.or known with
      | none => cases bill <;> simp [billSecret, SecretFound, hfound, -Option.or_eq_some_iff]
      | some text =>
          cases bill <;> simp [billSecret, SecretFound, hfound, -Option.or_eq_some_iff, eq_comm]

/-- When something is missing the search is settled by a failure. -/
theorem search_cases (c : WebhookConfig) (known : Option String) :
    (∃ failure, c.search known = .settled (.error failure) ∧ ¬ c.Prepared known) ∨
      ∃ bill, c.search known = .ofRoute bill c.transactions ∧ c.Prepared known ∧
        Option.Rel (SecretFound known) c.bills bill := by
  cases hnone : c.transactions.isNone && c.bills.isNone with
  | true =>
      refine .inl ⟨_, by rw [search, if_pos hnone], fun h => ?_⟩
      rw [enabled_iff.mpr h.enabled] at hnone
      cases hnone
  | false =>
      cases hbill : billSecret known c.bills with
      | error failure =>
          refine .inl ⟨failure, by simp [search, hnone, hbill], fun h => ?_⟩
          cases hbills : c.bills with
          | none => simp [hbills, billSecret] at hbill
          | some route =>
              obtain ⟨secret, hsecret⟩ := secretFound_iff.mpr (h.secret route hbills)
              have hok := billSecret_eq_ok_iff.mpr (Option.Rel.some hsecret)
              rw [← hbills, hbill] at hok
              cases hok
      | ok bill =>
          have hfound := billSecret_eq_ok_iff.mp hbill
          refine .inr ⟨bill, by simp [search, hnone, hbill], ⟨enabled_iff.mp hnone, ?_⟩, hfound⟩
          intro route hroute
          rw [hroute] at hfound
          cases hfound with
          | some hsecret => exact secretFound_iff.mp ⟨_, hsecret⟩

/-- The service is asked when nothing else is missing. -/
theorem prepared_of_search_asking
    {url : Url} {finish : Except Failure String → Except Failure WebhookSecrets}
    (h : c.search known = .asking url finish) :
    c.Prepared known ∧ c.AwaitsKey url := by
  rcases search_cases c known with ⟨failure, hsettled, -⟩ | ⟨bill, hroute, hprepared, -⟩
  · cases hsettled.symm.trans h
  · refine ⟨hprepared, ?_⟩
    have hasking := hroute.symm.trans h
    unfold AwaitsKey
    generalize c.transactions = transactions at hasking ⊢
    rcases transactions with _ | ⟨path, _ | text, _ | address⟩
    all_goals cases hasking
    exact ⟨path, rfl⟩

section Found

variable {σ : Type} {service : PaymentService (Activity σ)} {t : Nat} {s : σ}
variable {transactions : Option TransactionRoute} {secrets : WebhookSecrets}

theorem map_withBill_eq_ok_iff {answer : Except Failure (List UInt8)} :
    answer.map (⟨some ·, bill⟩) = .ok secrets ↔
      secrets.billSecret = bill ∧ ∃ key, answer = .ok key ∧ secrets.transactionKey = some key := by
  obtain ⟨transactionKey, billSecret⟩ := secrets
  cases answer with
  | error failure => simp [Except.map]
  | ok key => simp [Except.map, and_comm, eq_comm]

theorem run_settled_iff {result : Except Failure WebhookSecrets} :
    (∃ t' s', ((KeySearch.settled result).follow service.hookKey).run t s =
      (some (.ok secrets), t', s')) ↔ result = .ok secrets := by
  simp [KeySearch.follow, Activity.pure_eq_done, Activity.run]

theorem run_asking_iff
    {url : Url} {finish : Except Failure String → Except Failure WebhookSecrets} :
    (∃ t' s', ((KeySearch.asking url finish).follow service.hookKey).run t s =
      (some (.ok secrets), t', s')) ↔
    ∃ answer t' s', (service.hookKey url).run t s = (some answer, t', s') ∧
      finish answer = .ok secrets := by
  constructor
  · rintro ⟨t', s', hrun⟩
    obtain ⟨answer, t₁, s₁, hanswer, hlast⟩ := Activity.run_bind_inv hrun
    obtain ⟨hfinish, -⟩ : finish answer = .ok secrets ∧ _ := by
      simpa [Activity.run, Activity.pure_eq_done] using hlast
    exact ⟨answer, t₁, s₁, hanswer, hfinish⟩
  · rintro ⟨answer, t', s', hanswer, hfinish⟩
    refine ⟨t', s', ?_⟩
    rw [KeySearch.follow, Activity.bind_eq, Activity.run_bind, hanswer, ← hfinish]
    rfl

theorem run_ofRoute_iff :
    (∃ t' s', ((KeySearch.ofRoute bill transactions).follow service.hookKey).run t s =
      (some (.ok secrets), t', s')) ↔
        secrets.billSecret = bill ∧
          Option.Rel (KeyFound service t s) transactions secrets.transactionKey := by
  obtain ⟨transactionKey, billSecret⟩ := secrets
  cases transactions with
  | none =>
      rw [KeySearch.ofRoute, run_settled_iff]
      cases transactionKey <;> simp [eq_comm]
  | some route =>
      obtain ⟨path, _ | text, _ | url⟩ := route
      · rw [KeySearch.ofRoute, run_settled_iff]
        cases transactionKey <;> simp [KeyFound]
      · have hread : ∀ (answer : Except Failure String) (key : List UInt8),
            answer.bind Signature.key = .ok key ↔
              ∃ text, answer = .ok text ∧ Signature.key text = .ok key := by
          intro answer key
          cases answer <;> simp [Except.bind]
        rw [KeySearch.ofRoute, run_asking_iff]
        simp only [map_withBill_eq_ok_iff, hread]
        cases transactionKey <;> simp [KeyFound]
        grind
      all_goals
        rw [KeySearch.ofRoute, run_settled_iff, map_withBill_eq_ok_iff]
        cases transactionKey <;> simp [KeyFound]

/-- **Which keys are found**: those that the configuration and the service supply, if a route is
enabled. -/
theorem resolve_ok_iff :
    (∃ t' s', (c.resolve service).run t s = (some (.ok secrets), t', s')) ↔
      c.Supplied service t s secrets := by
  rw [resolve_eq]
  rcases search_cases c service.billSecret with
    ⟨failure, hsearch, hmissing⟩ | ⟨bill, hsearch, hprepared, hbill⟩
  · rw [hsearch, run_settled_iff]
    refine ⟨nofun, fun h => absurd ⟨h.enabled, fun route hroute => ?_⟩ hmissing⟩
    have hsecret := h.bill
    rw [hroute] at hsecret
    cases hfound : secrets.billSecret with
    | none => simp [hfound] at hsecret
    | some secret =>
        rw [hfound] at hsecret
        cases hsecret with
        | some hsecret => exact secretFound_iff.mp ⟨secret, hsecret⟩
  · rw [hsearch, run_ofRoute_iff]
    constructor
    · rintro ⟨rfl, hkey⟩
      exact ⟨hprepared.enabled, hkey, hbill⟩
    · intro h
      have hsame := (billSecret_eq_ok_iff.mpr h.bill).symm.trans (billSecret_eq_ok_iff.mpr hbill)
      exact ⟨Except.ok.inj hsame, h.transaction⟩

theorem exists_rel_iff {α β : Type} {R : α → β → Prop} {a : Option α} :
    (∃ b, Option.Rel R a b) ↔ ∀ x, a = some x → ∃ y, R x y := by
  cases a with
  | none => exact ⟨fun _ => nofun, fun _ => ⟨none, .none⟩⟩
  | some x =>
      constructor
      · rintro ⟨b, hb⟩ x' heq
        cases heq
        cases hb with
        | some h => exact ⟨_, h⟩
      · intro h
        obtain ⟨y, hy⟩ := h x rfl
        exact ⟨some y, .some hy⟩

/-- **When keys are found**: the service has to give a key if nothing else can. -/
theorem exists_supplied_iff :
    (∃ secrets, c.Supplied service t s secrets) ↔
      c.Prepared service.billSecret ∧
        ∀ route, c.transactions = some route → ∃ key, KeyFound service t s route key := by
  constructor
  · rintro ⟨secrets, h⟩
    refine ⟨⟨h.enabled, fun route hroute => ?_⟩, exists_rel_iff.mp ⟨_, h.transaction⟩⟩
    exact secretFound_iff.mp (exists_rel_iff.mp ⟨_, h.bill⟩ route hroute)
  · rintro ⟨hprepared, hkey⟩
    obtain ⟨key, hkey⟩ := exists_rel_iff.mpr hkey
    obtain ⟨bill, hbill⟩ := exists_rel_iff.mpr fun route hroute =>
      secretFound_iff.mpr (hprepared.secret route hroute)
    exact ⟨⟨key, bill⟩, hprepared.enabled, hkey, hbill⟩

end Found

/-- The paths of the enabled routes, with keys or without. -/
def mounts (c : WebhookConfig) : List (String × NoticeKind) :=
  (c.transactions.map fun route => (route.path, .transaction)).toList ++
    (c.bills.map fun route => (route.path, .bill)).toList

/-- The paths of the enabled routes make sense and can be told from one another. -/
def Acceptable (c : WebhookConfig) : Prop := (RoutePath.readAll? c.mounts).isSome = true

section Routes

variable {σ : Type} {service : PaymentService (Activity σ)} {t : Nat} {s : σ}
variable {secrets : WebhookSecrets}

/-- No enabled route is missing for want of a key. -/
theorem Supplied.enabledPaths_eq (h : c.Supplied service t s secrets) :
    Receiver.enabledPaths c secrets = c.mounts := by
  obtain ⟨-, htransaction, hbill⟩ := h
  obtain ⟨host, port, transactions, bills, allowList⟩ := c
  obtain ⟨transactionKey, billSecret⟩ := secrets
  cases htransaction <;> cases hbill <;> rfl

theorem Supplied.key_of_mounted
    {path : String} {kind : NoticeKind}
    (h : c.Supplied service t s secrets) (hmem : (path, kind) ∈ c.mounts) :
    ∃ key, secrets.key? kind = some key := by
  rw [← h.enabledPaths_eq, Receiver.enabledPaths, List.mem_append] at hmem
  rcases hmem with hmem | hmem
  · split at hmem
    · next route key _ hkey =>
      cases List.mem_singleton.mp hmem
      exact ⟨key, hkey⟩
    · simp at hmem
  · split at hmem
    · next route secret _ hsecret =>
      cases List.mem_singleton.mp hmem
      exact ⟨secret, hsecret⟩
    · simp at hmem

end Routes

end WebhookConfig

namespace Receiver

variable {σ : Type} {r : Receiver σ} {c : WebhookConfig} {routes : List (RoutePath × NoticeKind)}
variable {router : Router (Activity (Reception σ))}

/-- The routes of a router are those with these paths, in their order, and they lead to the notices of
their kinds. -/
def Mounts (r : Receiver σ) (paths : List (String × NoticeKind))
    (router : Router (Activity (Reception σ))) : Prop :=
  List.Forall₂ (fun entry route => RoutePath.read? entry.1 = some route.1 ∧
    route.2 = r.endpoint entry.2) paths router.routes

theorem mounts_of_router? (h : r.router? c = some router) :
    r.Mounts (enabledPaths c r.secrets) router := by
  rw [router?_eq] at h
  obtain ⟨routes, hroutes, rfl⟩ := Option.map_eq_some_iff.mp h
  obtain ⟨read, hread, hdistinct⟩ := Option.bind_eq_some_iff.mp hroutes
  obtain rfl : read = routes := by
    split at hdistinct
    · exact Option.some.inj hdistinct
    · simp at hdistinct
  rw [Mounts, List.forall₂_map_right_iff]
  refine (mapM_eq_some_iff.mp hread).imp fun entry route hroute => ?_
  obtain ⟨steps, hsteps, rfl⟩ := Option.map_eq_some_iff.mp hroute
  exact ⟨hsteps, rfl⟩

/-- What a request leads to is behind one of the paths. -/
theorem Mounts.exists_of_endpoint?
    {paths : List (String × NoticeKind)} {target : String} {endpoint : Endpoint _}
    (h : r.Mounts paths router) (hendpoint : router.endpoint? target = some endpoint) :
    ∃ path kind, (path, kind) ∈ paths ∧ endpoint = r.endpoint kind := by
  obtain ⟨route, hmem, -⟩ := RoutePath.mem_of_lead? hendpoint
  obtain ⟨⟨path, kind⟩, hentry, -, heq⟩ := exists_of_forall₂ h hmem
  exact ⟨path, kind, hentry, heq⟩

end Receiver

end WalletEvents
