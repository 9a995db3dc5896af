import WalletEvents.Proofs.Webhook.Copies
import WalletEvents.Proofs.Webhook.Routes

/-!
# Only authentic requests count

Requests of any kind come to the router of a configuration and take their steps
in any order. A known fingerprint is acknowledged before a signature is looked
at, so what an acknowledgement is worth depends on how the fingerprint came to be
known.

**Logbook.** The events are taken from a logbook. `Receiver.respondLogged_agrees`: apart
from it, the router with a logbook does what the router of the receiver does.

**Result.** `Receiver.authenticity` says of every state that is reached

* that events are handed over by authentic requests on enabled routes only;
* that the known fingerprints are those of the authentic requests that have got
  past their signature;
* that a success is the response to a value that such a request has sent, if the
  digest does not collide on what was sent.
-/

namespace WalletEvents

namespace RoutePath

variable {β : Type}

theorem mem_of_lead?
    {routes : List (RoutePath × β)} {path : List Char} {b : β} (h : lead? routes path = some b) :
    ∃ route, (route, b) ∈ routes ∧ route.fits path = true := by
  have hpreferred : ∀ (fitting : List (RoutePath × β)) (best : Option (RoutePath × β)) entry,
      fitting.foldl preferred best = some entry → entry ∈ fitting ∨ best = some entry := by
    intro fitting
    induction fitting with
    | nil =>
        intro best entry h
        exact Or.inr h
    | cons route rest ih =>
        intro best entry h
        rcases ih _ _ h with hmem | hbest
        · exact Or.inl (List.mem_cons_of_mem _ hmem)
        · unfold preferred at hbest
          split at hbest
          · exact Or.inl (by simp_all)
          · split at hbest
            · exact Or.inl (by simp_all)
            · exact Or.inr hbest
  obtain ⟨⟨route, b'⟩, hfold, rfl⟩ := Option.map_eq_some_iff.mp h
  rcases hpreferred _ _ _ hfold with hmem | hnone
  · obtain ⟨hmem, hfits⟩ := List.mem_filter.mp hmem
    exact ⟨route, hmem, hfits⟩
  · simp at hnone

theorem mem_of_mapM
    {α : Type} {read : α → Option β} {entries : List α} {results : List β} {b : β}
    (h : entries.mapM read = some results) (hmem : b ∈ results) :
    ∃ entry ∈ entries, read entry = some b := by
  induction entries generalizing results with
  | nil =>
      obtain rfl : [] = results := by simpa using h
      simp at hmem
  | cons entry rest ih =>
      rw [List.mapM_cons] at h
      obtain ⟨first, hfirst, h⟩ := Option.bind_eq_some_iff.mp h
      obtain ⟨others, hothers, h⟩ := Option.bind_eq_some_iff.mp h
      obtain rfl : first :: others = results := Option.some.inj h
      rcases List.mem_cons.mp hmem with rfl | hmem
      · exact ⟨entry, by simp, hfirst⟩
      · obtain ⟨entry', hentry', hread⟩ := ih hothers hmem
        exact ⟨entry', List.mem_cons_of_mem _ hentry', hread⟩

theorem mem_of_readAll?
    {paths : List (String × β)} {routes : List (RoutePath × β)} {route : RoutePath} {b : β}
    (h : readAll? paths = some routes) (hmem : (route, b) ∈ routes) :
    ∃ path, (path, b) ∈ paths ∧ read? path = some route := by
  obtain ⟨routes', hall, hpair⟩ := Option.bind_eq_some_iff.mp h
  obtain rfl : routes' = routes := by
    split at hpair
    · exact Option.some.inj hpair
    · simp at hpair
  obtain ⟨⟨path, b'⟩, hentry, hread⟩ := mem_of_mapM hall hmem
  obtain ⟨route', hroute, heq⟩ := Option.map_eq_some_iff.mp hread
  obtain ⟨rfl, rfl⟩ := Prod.mk.inj heq
  exact ⟨path, hentry, hroute⟩

end RoutePath

/-- The fingerprint of a notice is the one of the value that was read. -/
theorem Arrival.exists_value
    {kind : NoticeKind} {headers : List Http.Header} {body : List UInt8} {a : Arrival}
    (h : Arrival.read? kind headers body = some a) :
    ∃ raw, Json.parse? body = some raw ∧ a.fingerprint = .of raw := by
  obtain ⟨raw, hparsed, hread⟩ := Option.bind_eq_some_iff.mp h
  refine ⟨raw, hparsed, ?_⟩
  cases kind with
  | transaction =>
      obtain ⟨n, -, rfl⟩ := Option.map_eq_some_iff.mp hread
      rfl
  | bill =>
      obtain ⟨n, -, rfl⟩ := Option.map_eq_some_iff.mp hread
      rfl

namespace Receiver

variable {σ : Type} {r : Receiver σ} {c : WebhookConfig} {world : σ}
variable {turns : List (Turn Http.Request)}

/-- The work of the router on a request with a number. -/
def respondLogged (r : Receiver σ) (c : WebhookConfig) (i : Nat) (q : Http.Request) :
    Activity (Reception (Logbook σ)) Http.Response :=
  match (r.logged i).router? c with
  | some router => router.respond q
  | none => .crash

/-- **The logbook changes nothing.** The work of the router on a request is that of the router without a
logbook: it takes as long, gives the same response, and leaves the same notices and the same world. -/
theorem respondLogged_agrees
    {router : Router (Activity (Reception σ))} (hrouter : r.router? c = some router)
    (i : Nat) (q : Http.Request) :
    AgreeWithoutLogbook (r.respondLogged c i q) (router.respond q) := by
  have hbuilt := router?_eq r c
  rw [hrouter] at hbuilt
  obtain ⟨routes, hroutes, -⟩ := Option.map_eq_some_iff.mp hbuilt.symm
  have hlogged : (r.logged i).router? c = some
      ⟨routes.map fun route => (route.1, (r.logged i).endpoint route.2), c.allowList⟩ := by
    rw [router?_eq]
    exact congrArg _ hroutes
  simp only [respondLogged, hlogged]
  rw [respond_eq hlogged hroutes, respond_eq hrouter hroutes]
  cases aimOf c routes q with
  | error response => exact agree_done response
  | ok notice => exact agree_endpoint r i notice.1 notice.2

/-- Requests to the router of a configuration, which take their steps as the turns say. -/
def servingRouter (r : Receiver σ) (c : WebhookConfig) (world : σ)
    (turns : List (Turn Http.Request)) :
    Crowd Http.Request (Reception (Logbook σ)) Http.Response :=
  Crowd.run (r.respondLogged c) ⟨.empty, ⟨[], world⟩⟩ turns

/-- A request in a crowd is authentic on the route that its path leads to. -/
structure IsGenuine (r : Receiver σ) (c : WebhookConfig)
    (crowd : Crowd Http.Request (Reception (Logbook σ)) Http.Response) (i : Nat)
    (thread : Thread Http.Request (Reception (Logbook σ)) Http.Response)
    (kind : NoticeKind) (raw : Json) (e : Event) : Prop where
  present : crowd.threads[i]? = some thread
  method : thread.request.method = "POST"
  allowed : allows c thread.request = true
  routed : ∃ routes, routes? c r.secrets = some routes ∧
    RoutePath.lead? routes (Router.requestedPath thread.request.target) = some kind
  authentic : r.secrets.Authentic kind thread.request raw e

variable {i : Nat} {thread : Thread Http.Request (Reception (Logbook σ)) Http.Response}
variable {crowd : Crowd Http.Request (Reception (Logbook σ)) Http.Response}
variable {kind : NoticeKind} {raw : Json} {e : Event}

/-- The path that an authentic request asks for fits the route of an enabled kind. -/
theorem IsGenuine.enabled
    (h : r.IsGenuine c crowd i thread kind raw e) :
    ∃ path route, (path, kind) ∈ enabledPaths c r.secrets ∧
      RoutePath.read? path = some route ∧
      route.fits (Router.requestedPath thread.request.target) = true := by
  obtain ⟨routes, hroutes, hlead⟩ := h.routed
  obtain ⟨route, hmem, hfits⟩ := RoutePath.mem_of_lead? hlead
  obtain ⟨path, hpath, hread⟩ := RoutePath.mem_of_readAll? hroutes hmem
  exact ⟨path, route, hpath, hread, hfits⟩

theorem IsGenuine.mem_sentValues
    (h : r.IsGenuine c crowd i thread kind raw e) :
    raw ∈ sentValues id crowd :=
  ⟨thread, List.mem_of_getElem? h.present, h.authentic.parsed⟩

/-- The value that a request is authentic for is the value of its body. -/
theorem IsGenuine.value_unique
    {other : Thread Http.Request (Reception (Logbook σ)) Http.Response} {raw' : Json}
    (h : r.IsGenuine c crowd i thread kind raw e) (hpresent : crowd.threads[i]? = some other)
    (hparsed : Json.parse? other.request.body = some raw') :
    raw = raw' := by
  obtain rfl : thread = other := Option.some.inj (h.present.symm.trans hpresent)
  exact Option.some.inj (h.authentic.parsed.symm.trans hparsed)

theorem routes_of_built
    (hbuilt : (r.router? c).isSome = true) :
    ∃ routes, routes? c r.secrets = some routes := by
  rw [router?_eq, Option.isSome_map] at hbuilt
  exact Option.isSome_iff_exists.mp hbuilt

theorem servingRouter_eq
    {routes : List (RoutePath × NoticeKind)} (hroutes : routes? c r.secrets = some routes)
    (world : σ) (turns : List (Turn Http.Request)) :
    r.servingRouter c world turns = r.serving (aimOf c routes) world turns := by
  have hprogram : r.respondLogged c = r.serve (aimOf c routes) := by
    funext i q
    have hrouter : (r.logged i).router? c = some
        ⟨routes.map fun route => (route.1, (r.logged i).endpoint route.2), c.allowList⟩ := by
      rw [router?_eq]
      exact congrArg _ hroutes
    unfold respondLogged serve
    rw [hrouter]
    exact respond_eq hrouter hroutes q
  unfold servingRouter serving
  rw [hprogram]

variable {routes : List (RoutePath × NoticeKind)}

theorem isGenuine_of_aim
    {q : Http.Request}
    (hroutes : routes? c r.secrets = some routes) (hpresent : crowd.threads[i]? = some thread)
    (haim : aimOf c routes thread.request = .ok (kind, q))
    (hauthentic : r.secrets.Authentic kind q raw e) :
    r.IsGenuine c crowd i thread kind raw e := by
  obtain ⟨rfl, hmethod, hallows, hlead⟩ := aimOf_eq_ok haim
  exact ⟨hpresent, hmethod, hallows, ⟨routes, hroutes, hlead⟩, hauthentic⟩

theorem IsGenuine.aim
    (h : r.IsGenuine c crowd i thread kind raw e) (hroutes : routes? c r.secrets = some routes) :
    aimOf c routes thread.request = .ok (kind, thread.request) := by
  obtain ⟨routes', hroutes', hlead⟩ := h.routed
  obtain rfl : routes = routes' := Option.some.inj (hroutes.symm.trans hroutes')
  simp [aimOf, hlead, h.method, h.allowed]

section Invariant

variable {ι : Type} {target : ι → Aim} {turns : List (Turn ι)}
variable {crowd : Crowd ι (Reception (Logbook σ)) Http.Response}

/-- Events are handed over by authentic requests. -/
theorem Standing.authentic_of_handed
    {e : Event} (h : Standing r target world turns crowd)
    (he : (i, e) ∈ crowd.state.inner.handed) :
    ∃ thread kind q raw, crowd.threads[i]? = some thread ∧
      target thread.request = .ok (kind, q) ∧ r.secrets.Authentic kind q raw e := by
  have hlt := h.present i e he
  have hevent := Logbook.mem_eventsOf_iff.mpr he
  refine ⟨crowd.threads[i], ?_⟩
  rcases h.stage i _ (List.getElem?_eq_getElem hlt) with ⟨-, hnone⟩ | ⟨a, hchosen, -⟩
  · simp [hnone] at hevent
  · obtain ⟨kind, q, raw, haim, hauthentic, -⟩ := hchosen.exists_authentic
    obtain rfl : e = a.event := by
      rcases (hchosen.of_authentic haim hauthentic).2.1 with hnone | hone
      · simp [hnone] at hevent
      · simpa [hone] using hevent
    exact ⟨kind, q, raw, List.getElem?_eq_getElem hlt, haim, hauthentic⟩

/-- A success is the response to a value with a known fingerprint. -/
theorem Standing.known_of_success
    {thread : Thread ι (Reception (Logbook σ)) Http.Response} {response : Http.Response}
    (h : Standing r target world turns crowd) (hthread : crowd.threads[i]? = some thread)
    (hdone : thread.rest = .done response) (hstatus : response.status = 200) :
    ∃ kind q raw, target thread.request = .ok (kind, q) ∧ Json.parse? q.body = some raw ∧
      Fingerprint.of raw ∈ crowd.state.seen.fingerprints := by
  rcases h.stage i thread hthread with ⟨hunchosen, -⟩ | ⟨a, hchosen, -⟩
  · rw [hdone] at hunchosen
    generalize thread.steps = n at hunchosen
    cases hunchosen with
    | @known kind q a n haim hbrings hseen =>
        obtain ⟨raw, hparsed, hfingerprint⟩ := Arrival.exists_value hbrings.2
        exact ⟨kind, q, raw, haim, hparsed, hfingerprint ▸ hseen⟩
    | refused hrefused hnot => exact absurd hstatus hrefused
  · obtain ⟨kind, q, raw, haim, hauthentic, hraw⟩ := hchosen.exists_authentic
    exact ⟨kind, q, raw, haim, hauthentic.parsed, hraw ▸ hchosen.genuine.2.1⟩

end Invariant

/-- **Only authentic requests count**, whatever else comes and whose turn it is. -/
theorem authenticity
    (r : Receiver σ) (c : WebhookConfig) (hbuilt : (r.router? c).isSome = true)
    (world : σ) (turns : List (Turn Http.Request)) :
    (∀ i e, (i, e) ∈ (r.servingRouter c world turns).state.inner.handed →
      ∃ thread kind raw path route,
        r.IsGenuine c (r.servingRouter c world turns) i thread kind raw e ∧
        (path, kind) ∈ enabledPaths c r.secrets ∧ RoutePath.read? path = some route ∧
        route.fits (Router.requestedPath thread.request.target) = true) ∧
    (∀ f, f ∈ (r.servingRouter c world turns).state.seen.fingerprints ↔
      ∃ i thread kind raw e,
        r.IsGenuine c (r.servingRouter c world turns) i thread kind raw e ∧
        Fingerprint.of raw = f ∧ (thread.rest.hasEnded = true ∨ 2 ≤ thread.steps)) ∧
    (Set.InjOn Sha256.digest
        (Fingerprint.text '' sentValues id (r.servingRouter c world turns)) →
      ∀ (j : Nat) thread response,
        (r.servingRouter c world turns).threads[j]? = some thread →
        thread.rest = .done response → response.status = 200 →
        ∃ raw, Json.parse? thread.request.body = some raw ∧
          ∃ i other kind e,
            r.IsGenuine c (r.servingRouter c world turns) i other kind raw e ∧
            (other.rest.hasEnded = true ∨ 2 ≤ other.steps)) := by
  obtain ⟨routes, hroutes⟩ := routes_of_built hbuilt
  have hstanding : Standing r (aimOf c routes) world turns (r.servingRouter c world turns) := by
    rw [servingRouter_eq hroutes]
    exact standing (fun _ _ h => aimOf_status h) turns
  have hfirst : ∀ f, f ∈ (r.servingRouter c world turns).state.seen.fingerprints →
      ∃ i thread kind raw e,
        r.IsGenuine c (r.servingRouter c world turns) i thread kind raw e ∧
        Fingerprint.of raw = f ∧ (thread.rest.hasEnded = true ∨ 2 ≤ thread.steps) := by
    intro f hf
    obtain ⟨i, thread, a, kind, q, raw, hthread, -, hchosen, haim, hauthentic, hraw⟩ :=
      hstanding.exists_first hf
    exact ⟨i, thread, kind, raw, a.event, isGenuine_of_aim hroutes hthread haim hauthentic, hraw,
      Or.inr hchosen.genuine.1⟩
  refine ⟨?_, ?_, ?_⟩
  · intro i e he
    obtain ⟨thread, kind, q, raw, hthread, haim, hauthentic⟩ := hstanding.authentic_of_handed he
    have hgenuine := isGenuine_of_aim hroutes hthread haim hauthentic
    obtain ⟨path, route, hpath, hread, hfits⟩ := hgenuine.enabled
    exact ⟨thread, kind, raw, path, route, hgenuine, hpath, hread, hfits⟩
  · intro f
    constructor
    · exact hfirst f
    · rintro ⟨i, thread, kind, raw, e, hgenuine, rfl, hpast⟩
      exact hstanding.seen_of_authentic hgenuine.present (hgenuine.aim hroutes)
        hgenuine.authentic hpast
  · intro hdigest j thread response hthread hdone hstatus
    obtain ⟨kind, q, raw, haim, hparsed, hseen⟩ :=
      hstanding.known_of_success hthread hdone hstatus
    obtain ⟨rfl, -⟩ := aimOf_eq_ok haim
    obtain ⟨i, other, kind', raw', e, hgenuine, hraw, hpast⟩ := hfirst _ hseen
    have hvalue : raw' = raw :=
      Fingerprint.of_injOn hdigest hgenuine.mem_sentValues
        ⟨thread, List.mem_of_getElem? hthread, hparsed⟩ hraw
    exact ⟨raw, hparsed, i, other, kind', e, hvalue ▸ hgenuine, hpast⟩

/-- The request with the small notice on the usual route. -/
def smallBill : Http.Request := billRequest BillRoute.usual.path [115, 51] smallValue smallNotice.bill

/-- The small notice comes, is looked for and is remembered. -/
def smallBillTurns : List (Turn Http.Request) := [.arrive smallBill, .advance 0 0, .advance 0 0]

theorem smallBill_routed :
    ∃ routes, routes? .usual small.secrets = some routes ∧
      RoutePath.lead? routes (Router.requestedPath smallBill.target) = some .bill := by
  have hrouted : (routes? .usual small.secrets).bind
      (fun routes => RoutePath.lead? routes (Router.requestedPath smallBill.target)) =
        some .bill := by
    decide +kernel
  exact Option.bind_eq_some_iff.mp hrouted

theorem smallBill_present :
    ∃ thread, (small.servingRouter .usual () smallBillTurns).threads[0]? = some thread ∧
      thread.request = smallBill ∧ thread.steps = 2 := by
  obtain ⟨routes, hroutes, hlead⟩ := smallBill_routed
  have hmethod : smallBill.method = "POST" := rfl
  have hallows : allows .usual smallBill = true := rfl
  have haim : aimOf .usual routes smallBill = .ok (.bill, smallBill) := by
    simp [aimOf, hlead, hmethod, hallows]
  obtain ⟨a, hread, -, -, hsigned⟩ := (authentic_small BillRoute.usual.path).exists_arrival
  have hlen : ¬ maxBodyLength < smallBill.body.length :=
    Nat.not_lt.mpr (authentic_small BillRoute.usual.path).length_le
  have hendpoint : (small.logged 0).endpoint .bill smallBill = (small.logged 0).lookAndGoOn .bill a :=
    endpoint_of_arrival hlen hread
  have hsigned' : ((small.logged 0).secrets.key? .bill).any a.signedBy = true := hsigned
  rw [servingRouter_eq hroutes]
  simp [smallBillTurns, serving, Crowd.run, Crowd.turn, serve, haim, hendpoint, lookAndGoOn,
    Activity.step?, afterLook, hsigned', rememberAndProcess, SeenNotices.contains,
    SeenNotices.empty]

theorem authenticity_of_small :
    (small.router? .usual).isSome = true ∧
      .of smallValue ∈ (small.servingRouter .usual () smallBillTurns).state.seen.fingerprints := by
  have hbuilt : (small.router? .usual).isSome = true := by
    decide +kernel
  obtain ⟨thread, hpresent, hrequest, hsteps⟩ := smallBill_present
  have hgenuine : small.IsGenuine .usual (small.servingRouter .usual () smallBillTurns) 0 thread
      .bill smallValue (.bill smallNotice) := by
    refine ⟨hpresent, ?_, ?_, ?_, ?_⟩
    · rw [hrequest]
      rfl
    · rfl
    · rw [hrequest]
      exact smallBill_routed
    · rw [hrequest]
      exact authentic_small _
  refine ⟨hbuilt, ?_⟩
  rw [(authenticity small .usual hbuilt () smallBillTurns).2.1]
  exact ⟨0, thread, .bill, smallValue, .bill smallNotice, hgenuine, rfl, Or.inr hsteps.ge⟩

end Receiver

end WalletEvents
