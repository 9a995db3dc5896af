import WalletEvents.Proofs.Webhook.Stages

/-!
# What a router does with a request

Where the routes of a router lead does not matter for which of them is taken, so
the router of a receiver picks a kind of notices and leaves the rest to the
receiver. `Receiver.aimOf` is this choice:

* a request on no route, or by another method, or from a sender that is not
  allowed gets its response at once, and never a success;
* any other request goes to the receiver as a notice of the kind of its route.
-/

namespace WalletEvents

namespace RoutePath

variable {β γ : Type} (g : β → γ)

theorem readAll?_map (paths : List (String × β)) :
    readAll? (paths.map fun entry => (entry.1, g entry.2)) =
      (readAll? paths).map fun routes => routes.map fun route => (route.1, g route.2) := by
  have hroutes : ∀ paths : List (String × β),
      (paths.map fun entry => (entry.1, g entry.2)).mapM
          (fun entry => (read? entry.1).map fun route => (route, entry.2)) =
        (paths.mapM fun entry => (read? entry.1).map fun route => (route, entry.2)).map
          fun routes => routes.map fun route => (route.1, g route.2) := by
    intro paths
    induction paths with
    | nil => rfl
    | cons entry rest ih =>
        obtain ⟨path, b⟩ := entry
        rw [List.map_cons, List.mapM_cons, List.mapM_cons, ih]
        cases read? path with
        | none => rfl
        | some route =>
            cases rest.mapM fun entry => (read? entry.1).map fun route => (route, entry.2) with
            | none => rfl
            | some routes => rfl
  unfold readAll?
  rw [hroutes]
  cases paths.mapM fun entry => (read? entry.1).map fun route => (route, entry.2) with
  | none => rfl
  | some routes =>
      have hpaths : (routes.map fun route => (route.1, g route.2)).map Prod.fst =
          routes.map Prod.fst := by
        simp
      simp only [Option.map_some, Option.bind_eq_bind, Option.bind_some, hpaths]
      split <;> rfl

theorem lead?_map (routes : List (RoutePath × β)) (path : List Char) :
    lead? (routes.map fun route => (route.1, g route.2)) path = (lead? routes path).map g := by
  have hpreferred : ∀ (routes : List (RoutePath × β)) (best : Option (RoutePath × β)),
      (routes.map fun route => (route.1, g route.2)).foldl preferred
          (best.map fun route => (route.1, g route.2)) =
        (routes.foldl preferred best).map fun route => (route.1, g route.2) := by
    intro routes
    induction routes with
    | nil => simp
    | cons route rest ih =>
        intro best
        have hstep : preferred (best.map fun route => (route.1, g route.2)) (route.1, g route.2) =
            (preferred best route).map fun route => (route.1, g route.2) := by
          cases best with
          | none => rfl
          | some other =>
              simp only [preferred, Option.map_some]
              split <;> rfl
        rw [List.map_cons, List.foldl_cons, List.foldl_cons, hstep, ih]
  unfold lead?
  rw [List.filter_map]
  have hfold := hpreferred (routes.filter fun route => route.1.fits path) none
  rw [Option.map_none] at hfold
  simp only [Function.comp_def]
  rw [hfold, Option.map_map, Option.map_map]
  rfl

end RoutePath

namespace Receiver

variable {σ : Type}

/-- Where the routes of a configuration lead, if they make sense. -/
def routes? (c : WebhookConfig) (s : WebhookSecrets) : Option (List (RoutePath × NoticeKind)) :=
  RoutePath.readAll? (enabledPaths c s)

/-- Whether the sender of a request is allowed by a configuration. -/
def allows (c : WebhookConfig) (q : Http.Request) : Bool :=
  match c.allowList with
  | none => true
  | some list => (sender? q.headers q.peer).any list.allows

/-- What a request asks for on these routes. -/
def aimOf (c : WebhookConfig) (routes : List (RoutePath × NoticeKind)) (q : Http.Request) : Aim :=
  match RoutePath.lead? routes (Router.requestedPath q.target) with
  | none => .error (if allows c q then .ofStatus 404 else Router.refusalNowhere q)
  | some kind =>
    let refusal := NoticeFault.forbidden.response.answering q.method
    if q.method != "POST" then
      let response := if allows c q then .ofStatus 405 else refusal
      .error { response with allow := some "POST" }
    else if allows c q then .ok (kind, q)
    else .error refusal

variable {r : Receiver σ} {c : WebhookConfig} {routes : List (RoutePath × NoticeKind)}

theorem router?_eq (r : Receiver σ) (c : WebhookConfig) :
    r.router? c = (routes? c r.secrets).map fun routes =>
      ⟨routes.map fun route => (route.1, r.endpoint route.2), c.allowList⟩ := by
  unfold router? Router.ofPaths? routes?
  rw [RoutePath.readAll?_map r.endpoint (enabledPaths c r.secrets), Option.map_map]
  rfl

/-- **What a router does** is what the receiver does with what the request asks for. -/
theorem respond_eq
    {router : Router (Activity (Reception σ))}
    (hrouter : r.router? c = some router) (hroutes : routes? c r.secrets = some routes)
    (q : Http.Request) :
    router.respond q =
      match aimOf c routes q with
      | .ok (kind, request) => r.endpoint kind request
      | .error response => .done response := by
  rw [router?_eq, hroutes, Option.map_some, Option.some.injEq] at hrouter
  subst hrouter
  unfold Router.respond Router.endpoint? aimOf
  rw [RoutePath.lead?_map r.endpoint]
  have hadmits : Router.admits
      (⟨routes.map fun route => (route.1, r.endpoint route.2), c.allowList⟩ :
        Router (Activity (Reception σ))) q = allows c q := rfl
  rw [hadmits]
  cases RoutePath.lead? routes (Router.requestedPath q.target) with
  | none => cases allows c q <;> rfl
  | some kind =>
      by_cases hmethod : q.method = "POST"
      · cases allows c q
        · simp only [hmethod, bne_self_eq_false, Bool.false_eq_true, if_false, Option.map_some]
          rfl
        · simp only [hmethod, bne_self_eq_false, Bool.false_eq_true, if_false, Option.map_some]
          rfl
      · have hbne : (q.method != "POST") = true := bne_iff_ne.mpr hmethod
        simp only [hbne, if_true, Option.map_some]
        rfl

/-- What is said at once is no success. -/
theorem aimOf_status
    {q : Http.Request} {response : Http.Response} (h : aimOf c routes q = .error response) :
    response.status ≠ 200 := by
  have hrefusal : (NoticeFault.forbidden.response.answering q.method).status = 401 := by
    unfold Http.Response.answering
    split <;> rfl
  have hnowhere : (Router.refusalNowhere q).status = 401 := by
    unfold Router.refusalNowhere
    split
    · exact hrefusal
    · rfl
  unfold aimOf at h
  cases hlead : RoutePath.lead? routes (Router.requestedPath q.target) with
  | none =>
      simp only [hlead, Except.error.injEq] at h
      subst h
      split
      · decide
      · rw [hnowhere]
        decide
  | some kind =>
      simp only [hlead] at h
      split at h
      · obtain rfl := Except.error.inj h
        dsimp only
        split
        · decide
        · rw [hrefusal]
          decide
      · split at h
        · simp at h
        · obtain rfl := Except.error.inj h
          rw [hrefusal]
          decide

/-- Only a `POST` request of an allowed sender on a route goes to the receiver. -/
theorem aimOf_eq_ok
    {q request : Http.Request} {kind : NoticeKind} (h : aimOf c routes q = .ok (kind, request)) :
    request = q ∧ q.method = "POST" ∧ allows c q = true ∧
      RoutePath.lead? routes (Router.requestedPath q.target) = some kind := by
  unfold aimOf at h
  cases hlead : RoutePath.lead? routes (Router.requestedPath q.target) with
  | none => simp [hlead] at h
  | some kind' =>
      simp only [hlead] at h
      split at h
      · simp at h
      · rename_i hmethod
        split at h
        · rename_i hallows
          obtain ⟨rfl, rfl⟩ : kind' = kind ∧ q = request := by simpa using h
          exact ⟨rfl, by simpa using hmethod, hallows, rfl⟩
        · simp at h

end Receiver

end WalletEvents
