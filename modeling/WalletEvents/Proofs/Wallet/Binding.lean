import WalletEvents.Proofs.Wallet.Ledger

/-!
# Binding a wallet to an address

A wallet that is bound to an address looks for the active hook and keeps it, replaces it
or registers a first one.

**Result.** `Wallet.binding_converges`: over the link to a lawful service, from every
state of it, a hook for the address is active in the end and its key is the result. The
same again only looks: nothing is deleted or registered, and the key is the same.

**Limit.** A request cannot be sent when its URL is too long. So an address cannot be
bound if it is too long for a form, and below a directory with a name that is too long
nothing can be asked: `Wallet.overlong_urls_are_not_bound`.
-/

namespace WalletEvents

namespace Wallet

/-- The URLs of the requests that bind an address are not too long, up to the one for the key. -/
structure CanBind {σ : Type} (w : Wallet) (k : HookKeeper σ) (url : Url) (s : σ) : Prop where
  ask : w.Reaches "payment-notifier/v1/hooks/active" []
  delete : ∀ hook, k.active s = some hook → hook.url ≠ url.text →
    w.Reaches ("payment-notifier/v1/hooks/" ++ hook.id) []
  register : (∀ hook, k.active s = some hook → hook.url ≠ url.text) →
    w.Reaches "payment-notifier/v1/hooks"
      [("hookType", "1"), ("param", url.text), ("txnType", "2")]

variable {σ : Type} {k : HookKeeper σ} {w : Wallet} {base url : Url} {s : σ} {hook : KeptHook}
variable {sent : List WalletRequest} {session : Session}

/-- A hook that is bound to the address already is only looked at. -/
theorem outcome_bindWebhook_of_bound
    (hready : w.IsReady base) (hlawful : k.Lawful base.directory)
    (hask : w.Reaches "payment-notifier/v1/hooks/active" [])
    (hactive : k.active s = some hook) (hurl : hook.url = url.text) :
    ∃ result requests s', WalletM.outcome (w.bindWebhook k.link url) session (s, sent) =
        (result, true, s', sent ++ requests) ∧
      k.active s' = some hook ∧ (∀ q ∈ requests, q.method = "GET") ∧
      (w.Reaches ("payment-notifier/v1/hooks/" ++ hook.id ++ "/key") [] → result = .ok hook.key) := by
  obtain ⟨info, q, s₁, hasked, hget, hactive₁, hid, hinfo⟩ :=
    outcome_activeWebhook_some hready hlawful hask hactive
  obtain ⟨result, requests, s₂, hkey, hactive₂, hgets, hreached⟩ :=
    outcome_webhookKey hready hlawful hactive₁
  refine ⟨result, q :: requests, s₂, ?_, hactive₂, List.forall_mem_cons.mpr ⟨hget, hgets⟩,
    hreached⟩
  rw [bindWebhook, WalletM.outcome_bind_of_ok hasked]
  dsimp only
  rw [if_pos (hinfo.trans hurl), hid, hkey, List.append_assoc]
  rfl

/-- When no hook is active, one is registered and its key is asked for. -/
theorem outcome_registerAndKey
    (hready : w.IsReady base) (hlawful : k.Lawful base.directory)
    (hregister : w.Reaches "payment-notifier/v1/hooks"
      [("hookType", "1"), ("param", url.text), ("txnType", "2")])
    (hactive : k.active s = none) :
    ∃ hook result requests s', WalletM.outcome
        (w.registerWebhook k.link url >>= fun info => w.webhookKey k.link info.hookId) session
          (s, sent) = (result, true, s', sent ++ requests) ∧
      k.active s' = some hook ∧ hook.url = url.text ∧
      (w.Reaches ("payment-notifier/v1/hooks/" ++ hook.id ++ "/key") [] → result = .ok hook.key) := by
  obtain ⟨info, hook, q, s₁, hstored, hactive₁, hurl, hid⟩ :=
    outcome_registerWebhook hready hlawful hregister hactive
  obtain ⟨result, requests, s₂, hkey, hactive₂, -, hreached⟩ :=
    outcome_webhookKey hready hlawful hactive₁
  refine ⟨hook, result, q :: requests, s₂, ?_, hactive₂, hurl, hreached⟩
  rw [WalletM.outcome_bind_of_ok hstored, hid, hkey, List.append_assoc]
  rfl

/-- From every state of the service a hook for the address is active in the end. -/
theorem outcome_bindWebhook
    (hready : w.IsReady base) (hlawful : k.Lawful base.directory) (hcan : w.CanBind k url s) :
    ∃ hook result requests s', WalletM.outcome (w.bindWebhook k.link url) session (s, sent) =
        (result, true, s', sent ++ requests) ∧
      k.active s' = some hook ∧ hook.url = url.text ∧
      (w.Reaches ("payment-notifier/v1/hooks/" ++ hook.id ++ "/key") [] → result = .ok hook.key) ∧
      ∀ old, k.active s = some old → old.url = url.text →
        hook = old ∧ ∀ q ∈ requests, q.method = "GET" := by
  cases hactive : k.active s with
  | none =>
      obtain ⟨q, s₁, hasked, -, hactive₁⟩ :=
        outcome_activeWebhook_none hready hlawful hcan.ask hactive
      have hregister := hcan.register fun old hold => by
        rw [hactive] at hold
        cases hold
      obtain ⟨hook, result, requests, s', hbound, hactive', hurl, hreached⟩ :=
        outcome_registerAndKey hready hlawful hregister hactive₁
      refine ⟨hook, result, q :: requests, s', ?_, hactive', hurl, hreached, nofun⟩
      rw [bindWebhook, WalletM.outcome_bind_of_ok hasked]
      dsimp only
      rw [hbound, List.append_assoc]
      rfl
  | some old =>
      by_cases hbound : old.url = url.text
      · obtain ⟨result, requests, s', hlooked, hactive', hget, hreached⟩ :=
          outcome_bindWebhook_of_bound hready hlawful hcan.ask hactive hbound
        refine ⟨old, result, requests, s', hlooked, hactive', hbound, hreached, fun old' hold _ => ?_⟩
        cases hold
        exact ⟨rfl, hget⟩
      · obtain ⟨info, q, s₁, hasked, -, hactive₁, hid, hinfo⟩ :=
          outcome_activeWebhook_some hready hlawful hcan.ask hactive
        obtain ⟨q', s₂, hdeleted, hactive₂⟩ :=
          outcome_deleteWebhook hready hlawful hactive₁ (hcan.delete old hactive hbound)
        have hregister := hcan.register fun old' hold => by
          rw [hactive] at hold
          cases hold
          exact hbound
        obtain ⟨hook, result, requests, s', hreplaced, hactive', hurl, hreached⟩ :=
          outcome_registerAndKey hready hlawful hregister hactive₂
        refine ⟨hook, result, q :: q' :: requests, s', ?_, hactive', hurl, hreached,
          fun old' hold hsame => ?_⟩
        · rw [bindWebhook, WalletM.outcome_bind_of_ok hasked]
          dsimp only
          rw [if_neg (by rw [hinfo]; exact hbound), hid, WalletM.outcome_bind_of_ok hdeleted,
            hreplaced, List.append_assoc, List.append_assoc]
          rfl
        · cases hold
          exact absurd hsame hbound

/--
**Binding converges.** From every state of a lawful service a wallet is bound to an address: the active
hook is one for exactly this address, and the result is its key, if the request for the key can be sent.
A hook that was bound to the address before is kept, with requests that only look. So it is when the
wallet is bound again.
-/
theorem binding_converges
    (hready : w.IsReady base) (hlawful : k.Lawful base.directory) (hcan : w.CanBind k url s)
    (sent : List WalletRequest) (session : Session) :
    ∃ hook result requests s', WalletM.outcome (w.bindWebhook k.link url) session (s, sent) =
        (result, true, s', sent ++ requests) ∧
      k.active s' = some hook ∧ hook.url = url.text ∧
      (∀ old, k.active s = some old → old.url = url.text →
        hook = old ∧ ∀ q ∈ requests, q.method = "GET") ∧
      (w.Reaches ("payment-notifier/v1/hooks/" ++ hook.id ++ "/key") [] → result = .ok hook.key ∧
        ∀ session', ∃ again s'',
          WalletM.outcome (w.bindWebhook k.link url) session' (s', sent ++ requests) =
            (.ok hook.key, true, s'', sent ++ requests ++ again) ∧
          k.active s'' = some hook ∧ ∀ q ∈ again, q.method = "GET") := by
  obtain ⟨hook, result, requests, s', hbound, hactive, hurl, hreached, hkept⟩ :=
    outcome_bindWebhook hready hlawful hcan
  refine ⟨hook, result, requests, s', hbound, hactive, hurl, hkept, fun hreach =>
    ⟨hreached hreach, fun session' => ?_⟩⟩
  obtain ⟨result', again, s'', hlooked, hactive', hget, hkey⟩ :=
    outcome_bindWebhook_of_bound hready hlawful hcan.ask hactive hurl
  rw [hkey hreach] at hlooked
  exact ⟨again, s'', hlooked, hactive', hget⟩

/-- The small service can be asked for the key of its hook. -/
theorem reaches_key
    {l : Ledger} (hactive : (Ledger.keeper []).active l = some hook) :
    (onLocalhost []).Reaches ("payment-notifier/v1/hooks/" ++ hook.id ++ "/key") [] := by
  obtain ⟨url, -, rfl⟩ := Option.map_eq_some_iff.mp hactive
  have hkey : "key".length = 3 := by
    decide
  refine reaches_localhost (isPlace_key (l.id_plain url)) ?_
  simp [Form.append, l.length_id url, hkey]

/-- It can be asked for the rest if the form of the address is short enough. -/
theorem canBind_address (haddress : url.text.length ≤ 1000) (l : Ledger) :
    (onLocalhost []).CanBind (Ledger.keeper []) url l where
  ask := reaches_localhost isPlace_active (by decide)
  delete hook hactive _ := by
    obtain ⟨other, -, rfl⟩ := Option.map_eq_some_iff.mp hactive
    refine reaches_localhost (isPlace_hook (l.id_plain other)) ?_
    simp [Form.append, l.length_id other]
  register _ := by
    have hform := (length_registration url).2
    refine reaches_localhost isPlace_hooks ?_
    rw [List.map_nil, List.sum_nil]
    omega

/-- The small service has a hook for another address at first. -/
theorem binding_converges_of_foreign :
    let address := localhostUrl "notices".toList
    let old : Ledger := ⟨false, some "https://other.example.com/"⟩
    (onLocalhost []).IsReady (localhostUrl []) ∧
      (Ledger.keeper []).Lawful (localhostUrl []).directory ∧
      (onLocalhost []).CanBind (Ledger.keeper []) address old ∧
      ∃ hook requests s', WalletM.outcome ((onLocalhost []).bindWebhook (Ledger.keeper []).link address)
          false (old, []) = (.ok hook.key, true, s', [] ++ requests) ∧
        (Ledger.keeper []).active s' = some hook ∧ hook.url = address.text ∧
        (onLocalhost []).Reaches ("payment-notifier/v1/hooks/" ++ hook.id ++ "/key") [] := by
  intro address old
  have haddress : address.text.length ≤ 1000 := by
    decide +kernel
  have hready : (onLocalhost []).IsReady (localhostUrl []) := onLocalhost_isReady nofun
  have hlawful := Ledger.keeper_lawful (localhostUrl []).directory
  have hcan := canBind_address haddress old
  obtain ⟨hook, result, requests, s', hbound, hactive, hurl, -, hreached⟩ :=
    binding_converges hready hlawful hcan [] false
  have hreach := reaches_key hactive
  rw [(hreached hreach).1] at hbound
  exact ⟨hready, hlawful, hcan, hook, requests, s', hbound, hactive, hurl, hreach⟩

/-- Nothing is bound when the first request is too long. -/
theorem outcome_bindWebhook_of_overlong
    (hready : w.IsReady base)
    (hlong : Url.longestRequested <
      (w.requestFor base "GET" (hookPath ++ ["active"]) []).url.text.length) :
    WalletM.outcome (w.bindWebhook k.link url) session (s, sent) =
      (.error (.exchange .request), true, s, sent) := by
  rw [bindWebhook, activeWebhook, WalletM.outcome_bind, WalletM.outcome_tryCatch, map_eq_pure_bind,
    WalletM.outcome_bind, ask, WalletM.outcome_bind,
    outcome_send_of_overlong hready isPlace_active hlong]
  rfl

/-- Nothing is bound when the form of the address is too long. -/
theorem outcome_bindWebhook_of_overlong_address
    (hready : w.IsReady base) (hlawful : k.Lawful base.directory)
    (hreach : w.Reaches "payment-notifier/v1/hooks/active" []) (hactive : k.active s = none)
    (hlong : Url.longestRequested < (w.requestFor base "PUT" hookPath
      [("hookType", "1"), ("param", url.text), ("txnType", "2")]).url.text.length) :
    (WalletM.outcome (w.bindWebhook k.link url) session (s, sent)).1 =
      .error (.exchange .request) := by
  obtain ⟨q, s₁, hasked, -, -⟩ := outcome_activeWebhook_none hready hlawful hreach hactive
  rw [bindWebhook, WalletM.outcome_bind_of_ok hasked]
  dsimp only
  rw [WalletM.outcome_bind, registerWebhook, ask, WalletM.outcome_bind,
    outcome_send_of_overlong hready isPlace_hooks hlong]

/-- The small service cannot be bound to an address of 65536 letters, and it cannot be asked
for anything below a directory of 65510 letters. -/
theorem overlong_urls_are_not_bound :
    let empty : Ledger := ⟨false, none⟩
    let address := localhostUrl (List.replicate 65536 'a')
    let path := List.replicate 65510 'a' ++ ['/']
    let below := Ledger.keeper (localhostUrl path).directory
    ((onLocalhost []).IsReady (localhostUrl []) ∧
      (Ledger.keeper []).Lawful (localhostUrl []).directory ∧
      (WalletM.outcome ((onLocalhost []).bindWebhook (Ledger.keeper []).link address) false
        (empty, [])).1 = .error (.exchange .request)) ∧
    (onLocalhost path).IsReady (localhostUrl path) ∧
      below.Lawful (localhostUrl path).directory ∧
      WalletM.outcome ((onLocalhost path).bindWebhook below.link (localhostUrl [])) false (empty, []) =
        (.error (.exchange .request), true, empty, []) := by
  intro empty address path below
  constructor
  · have hready : (onLocalhost []).IsReady (localhostUrl []) := onLocalhost_isReady nofun
    have hlawful := Ledger.keeper_lawful (localhostUrl []).directory
    have hask : (onLocalhost []).Reaches "payment-notifier/v1/hooks/active" [] :=
      reaches_localhost isPlace_active (by decide)
    have hform := (length_registration address).1
    have haddress : address.text.length = 65553 := length_text_letters 65536
    refine ⟨hready, hlawful,
      outcome_bindWebhook_of_overlong_address hready hlawful hask rfl ?_⟩
    rw [length_requestFor, if_neg (List.cons_ne_nil _ _), Url.longestRequested]
    omega
  · have hready : (onLocalhost path).IsReady (localhostUrl path) :=
      onLocalhost_isReady (endpoint_below_letters 65510)
    have hrest : ((hookPath ++ ["active"]).map fun segment => segment.length + 1).sum = 33 := by
      decide
    refine ⟨hready, Ledger.keeper_lawful _, outcome_bindWebhook_of_overlong hready ?_⟩
    rw [length_requestFor, directory_below_letters, List.map_append, List.sum_append, hrest,
      if_pos rfl, Url.longestRequested]
    simp only [List.map_cons, List.map_nil, List.sum_cons, List.sum_nil, String.length_ofList,
      List.length_replicate]
    omega

end Wallet

end WalletEvents
