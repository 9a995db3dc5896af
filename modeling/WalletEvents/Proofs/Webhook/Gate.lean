import WalletEvents.Proofs.Network.Senders
import WalletEvents.Proofs.Webhook.Rejected

/-!
# The gate in front of a router

A router with a list of allowed networks is compared with the router of the same
configuration without the list. The gate stands in front of everything else:

* a request from an allowed address meets the same work in both routers, whatever
  the state and whatever else is going on;
* any other request is refused at once, without a step of work, whatever its path,
  its method and its body are. How the refusal looks is `gateRefusal`: its body is
  left out only if the head alone is asked for, at a route or without any path.

`Receiver.gate_in_front` says this of one request. `Receiver.respondInTurn_gated`
says it of any number of them one after another: those that are refused might as
well not have been sent.
-/

namespace WalletEvents

/-- A request comes from an address in one of the networks. -/
def AllowList.Admits (list : AllowList) (q : Http.Request) : Prop :=
  ∃ ip, Http.SentFrom q.headers q.peer ip ∧ ∃ network ∈ list.networks, network.Covers ip

/-- The refusal of a request, whose path leads to a route or not. A route names the method to use. A
request for the head alone gets no body at a route, nor if its target has no path. -/
def gateRefusal (q : Http.Request) (mounted : Bool) : Http.Response where
  status := 401
  contentType := some "application/json"
  allow := if mounted = true ∧ q.method ≠ "POST" then some "POST" else none
  body :=
    if q.method = "HEAD" ∧ (mounted = true ∨ Router.requestedPath q.target = []) then ""
    else "\x7b\"status\":\"Forbidden\"\x7d"

theorem AllowList.admits_iff {list : AllowList} {q : Http.Request} :
    list.Admits q ↔ (sender? q.headers q.peer).any list.allows = true := by
  simp only [Option.any_eq_true, sender?_eq_some_iff, AllowList.allows_iff]
  rfl

instance (list : AllowList) (q : Http.Request) : Decidable (list.Admits q) :=
  decidable_of_iff _ AllowList.admits_iff.symm

theorem forbidden_response :
    NoticeFault.forbidden.response =
      ⟨401, some "application/json", none, "\x7b\"status\":\"Forbidden\"\x7d"⟩ := by
  decide +kernel

namespace Router

variable {m : Type → Type} {router plain : Router m} {q : Http.Request}

theorem admits_iff {list : AllowList} (hlist : router.allowList = some list) :
    router.admits q = true ↔ list.Admits q := by
  rw [AllowList.admits_iff, admits, hlist]

theorem admits_of_open (h : router.allowList = none) (q : Http.Request) :
    router.admits q = true := by
  simp [admits, h]

theorem refusalNowhere_eq (q : Http.Request) : refusalNowhere q = gateRefusal q false := by
  unfold refusalNowhere gateRefusal Http.Response.answering
  rw [forbidden_response]
  by_cases hpath : requestedPath q.target = []
  · by_cases hhead : q.method = "HEAD" <;> simp [hpath, hhead]
  · simp [hpath]

variable [Monad m]

/-- Two routers with the same routes do the same with a request that both let pass. -/
theorem respond_of_admitted
    (hroutes : router.routes = plain.routes)
    (hadmits : router.admits q = true) (hplain : plain.admits q = true) :
    router.respond q = plain.respond q := by
  unfold respond endpoint?
  rw [hroutes, hadmits, hplain]

/-- A request that is not let pass is refused, whatever it asks for. -/
theorem respond_of_refused (h : router.admits q = false) :
    router.respond q = pure (gateRefusal q (router.endpoint? q.target).isSome) := by
  unfold respond
  rw [h]
  cases router.endpoint? q.target with
  | none =>
      rw [refusalNowhere_eq]
      rfl
  | some endpoint =>
      rw [forbidden_response]
      by_cases hpost : q.method = "POST"
      · simp [hpost, gateRefusal, Http.Response.answering]
      · by_cases hhead : q.method = "HEAD" <;>
          simp [hpost, hhead, gateRefusal, Http.Response.answering]

end Router

namespace Receiver

variable {σ : Type} {r : Receiver σ} {c : WebhookConfig} {list : AllowList}

/-- The configuration that lets every sender pass. -/
def withoutGate (c : WebhookConfig) : WebhookConfig := { c with allowList := none }

/-- The routers with and without a gate have the same routes, if there are any. -/
theorem router?_gated (r : Receiver σ) (c : WebhookConfig) :
    r.router? c = (r.router? (withoutGate c)).map fun plain => ⟨plain.routes, c.allowList⟩ := by
  rw [router?_eq, router?_eq, Option.map_map]
  rfl

theorem exists_plain
    {router : Router (Activity (Reception σ))} (h : r.router? c = some router) :
    ∃ plain, r.router? (withoutGate c) = some plain ∧ router.routes = plain.routes ∧
      router.allowList = c.allowList ∧ plain.allowList = none := by
  rw [router?_gated] at h
  obtain ⟨plain, hplain, rfl⟩ := Option.map_eq_some_iff.mp h
  refine ⟨plain, hplain, rfl, rfl, ?_⟩
  rw [router?_eq] at hplain
  obtain ⟨routes, -, rfl⟩ := Option.map_eq_some_iff.mp hplain
  rfl

/--
**The gate stands in front of everything else.** Without the list of networks the same router can be
built, and then, for every request,

* if it comes from an address in one of the networks, both routers do the same;
* if not, the response is the refusal, whatever its body is, and it is given without a step of work.
-/
theorem gate_in_front
    (r : Receiver σ) (c : WebhookConfig) (hlist : c.allowList = some list)
    {router : Router (Activity (Reception σ))} (hrouter : r.router? c = some router) :
    ∃ plain, r.router? { c with allowList := none } = some plain ∧
      ∀ q : Http.Request,
        (list.Admits q → router.respond q = plain.respond q) ∧
        (¬ list.Admits q → ∀ body, router.respond { q with body := body } =
          .done (gateRefusal q (router.endpoint? q.target).isSome)) := by
  obtain ⟨plain, hplain, hroutes, hgate, hopen⟩ := exists_plain hrouter
  refine ⟨plain, hplain, fun q => ⟨?_, ?_⟩⟩
  · intro hadmits
    exact Router.respond_of_admitted hroutes ((Router.admits_iff (hgate.trans hlist)).mpr hadmits)
      (Router.admits_of_open hopen q)
  · intro hrefused body
    have hadmits : router.admits { q with body := body } = false := by
      rw [← Bool.not_eq_true, Router.admits_iff (hgate.trans hlist)]
      exact hrefused
    exact Router.respond_of_refused hadmits

section InTurn

variable {i : Nat} {q : Http.Request} {s s' : Reception (Logbook σ)}

theorem respondLogged_of_admitted
    (hlist : c.allowList = some list) (hadmits : list.Admits q) :
    r.respondLogged c i q = r.respondLogged (withoutGate c) i q := by
  unfold respondLogged
  cases hrouter : (r.logged i).router? c with
  | none =>
      rw [router?_gated, Option.map_eq_none_iff] at hrouter
      rw [hrouter]
  | some router =>
      obtain ⟨plain, hplain, hroutes, hgate, hopen⟩ := exists_plain hrouter
      rw [hplain]
      exact Router.respond_of_admitted hroutes
        ((Router.admits_iff (hgate.trans hlist)).mpr hadmits) (Router.admits_of_open hopen q)

theorem respondLogged_of_refused
    (hlist : c.allowList = some list) (hbuilt : (r.router? c).isSome = true)
    (hrefused : ¬ list.Admits q) :
    ∃ mounted, r.respondLogged c i q = .done (gateRefusal q mounted) := by
  have hlogged : ((r.logged i).router? c).isSome = true := by
    rw [router?_eq, Option.isSome_map] at hbuilt ⊢
    exact hbuilt
  obtain ⟨router, hrouter⟩ := Option.isSome_iff_exists.mp hlogged
  obtain ⟨plain, -, -, hgate, -⟩ := exists_plain hrouter
  have hadmits : router.admits q = false := by
    rw [← Bool.not_eq_true, Router.admits_iff (hgate.trans hlist)]
    exact hrefused
  refine ⟨(router.endpoint? q.target).isSome, ?_⟩
  simp only [respondLogged, hrouter]
  exact Router.respond_of_refused hadmits

/-- **Refused requests might as well not have been sent.** The others get the responses of the router
without a gate, which leads to the same state. -/
theorem respondInTurn_gated
    (r : Receiver σ) (hlist : c.allowList = some list) (hbuilt : (r.router? c).isSome = true)
    (deliveries : List Delivery) (s : Reception (Logbook σ)) :
    let admitted := deliveries.filter fun d => list.Admits d.request
    let answered := r.respondInTurn c deliveries s
    r.respondInTurn (withoutGate c) admitted s =
        (answered.1.filter fun answer => list.Admits answer.1.request, answered.2) ∧
      ∀ d response, (d, response) ∈ answered.1 → ¬ list.Admits d.request →
        ∃ mounted, response = some (gateRefusal d.request mounted) := by
  induction deliveries generalizing s with
  | nil => exact ⟨rfl, by simp [respondInTurn]⟩
  | cons d rest ih =>
      rcases hrun : (r.respondLogged c d.number d.request).run d.time s with ⟨response, t', s'⟩
      obtain ⟨hsame, hothers⟩ := ih s'
      dsimp only
      rw [respondInTurn_cons hrun]
      by_cases hadmits : list.Admits d.request
      · rw [List.filter_cons_of_pos (by simpa using hadmits),
          List.filter_cons_of_pos (by simpa using hadmits)]
        have hplain := hrun
        rw [respondLogged_of_admitted hlist hadmits] at hplain
        rw [respondInTurn_cons hplain, hsame]
        refine ⟨rfl, fun e response' hmem hrefused => ?_⟩
        rcases List.mem_cons.mp hmem with heq | hmem
        · obtain ⟨rfl, -⟩ := Prod.mk.inj heq
          exact absurd hadmits hrefused
        · exact hothers e response' hmem hrefused
      · rw [List.filter_cons_of_neg (by simpa using hadmits),
          List.filter_cons_of_neg (by simpa using hadmits)]
        obtain ⟨mounted, hwork⟩ := respondLogged_of_refused (i := d.number) hlist hbuilt hadmits
        rw [hwork, Activity.run] at hrun
        obtain ⟨rfl, -, rfl⟩ : some (gateRefusal d.request mounted) = response ∧
            d.time = t' ∧ s = s' := by
          simpa using hrun
        refine ⟨hsame, fun e response' hmem hrefused => ?_⟩
        rcases List.mem_cons.mp hmem with heq | hmem
        · obtain ⟨rfl, rfl⟩ := Prod.mk.inj heq
          exact ⟨mounted, rfl⟩
        · exact hothers e response' hmem hrefused

end InTurn

/-- Allows the addresses that begin with the octet 10. -/
def officeList : AllowList := ⟨[⟨.v4 #v[10, 0, 0, 0], 8, by decide⟩]⟩

/-- The usual configuration behind a gate. -/
def gatedConfig : WebhookConfig := { WebhookConfig.usual with allowList := some officeList }

/-- The small notice, sent by way of two proxies. -/
def forwardedBill : Http.Request :=
  { smallBill with
    headers := ("X-Forwarded-For", Utf8.encode " 10.1.2.3 ,8.8.8.8") :: smallBill.headers }

/-- Somebody asks for the head of what is at the route for bills. -/
def headRequest : Http.Request := ⟨"HEAD", BillRoute.usual.path, [], [], none⟩

theorem router?_gatedConfig :
    ∃ router, small.router? gatedConfig = some router := by
  rw [router?_gated]
  have hbuilt : (small.router? (withoutGate gatedConfig)).isSome = true := by
    decide +kernel
  obtain ⟨plain, hplain⟩ := Option.isSome_iff_exists.mp hbuilt
  exact ⟨_, congrArg _ hplain⟩

/-- The forwarded notice passes the gate, and without its proxies it does not. -/
theorem gate_in_front_of_forwarded :
    ∃ router plain, small.router? gatedConfig = some router ∧
      small.router? .usual = some plain ∧
      officeList.Admits forwardedBill ∧ router.respond forwardedBill = plain.respond forwardedBill ∧
      ¬ officeList.Admits smallBill ∧
      ∃ mounted, router.respond smallBill = .done (gateRefusal smallBill mounted) := by
  obtain ⟨router, hrouter⟩ := router?_gatedConfig
  obtain ⟨plain, hplain, hgate⟩ := gate_in_front small gatedConfig rfl hrouter
  have hpasses : officeList.Admits forwardedBill := by
    decide +kernel
  have hstops : ¬ officeList.Admits smallBill := by
    decide +kernel
  have hrefused := (hgate smallBill).2 hstops smallBill.body
  exact ⟨router, plain, hrouter, hplain, hpasses, (hgate forwardedBill).1 hpasses, hstops, _,
    hrefused⟩

/-- A request for the head of what is at a route gets no body with its refusal. -/
theorem refused_head_has_no_body :
    ∃ router, small.router? gatedConfig = some router ∧ ¬ officeList.Admits headRequest ∧
      router.respond headRequest = .done ⟨401, some "application/json", some "POST", ""⟩ ∧
      ∀ allow, router.respond headRequest ≠
        .done ⟨401, some "application/json", allow, "\x7b\"status\":\"Forbidden\"\x7d"⟩ := by
  have hthere : (routes? gatedConfig small.secrets).map
      (fun routes => RoutePath.lead? routes (Router.requestedPath headRequest.target)) =
        some (some .bill) := by
    decide +kernel
  obtain ⟨routes, hroutes, hlead⟩ := Option.map_eq_some_iff.mp hthere
  obtain ⟨router, hrouter⟩ := router?_gatedConfig
  have hstops : ¬ officeList.Admits headRequest := by
    decide +kernel
  have haim : aimOf gatedConfig routes headRequest =
      .error ⟨401, some "application/json", some "POST", ""⟩ := by
    have hallows : allows gatedConfig headRequest = false := by
      decide +kernel
    simp only [aimOf, hlead, hallows, forbidden_response]
    rfl
  have hresponse : router.respond headRequest =
      .done ⟨401, some "application/json", some "POST", ""⟩ := by
    rw [respond_eq hrouter hroutes, haim]
  refine ⟨router, hrouter, hstops, hresponse, fun allow hbody => ?_⟩
  rw [hresponse, Activity.done.injEq, Http.Response.mk.injEq] at hbody
  exact absurd hbody.2.2.2 (by decide)

end Receiver

end WalletEvents
