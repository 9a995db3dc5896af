import WalletEvents.Webhook.Receiver
import WalletEvents.Webhook.Route

/-!
# Routing requests

A request is routed by the path in its target, which may be given with or without the host that was asked.

**Order.** The gate comes first: a sender that is not allowed is refused, whatever it asks for. Then an
unknown path and a method other than `POST` are refused, and then a body that is too long.

**Heads.** A route answers a request for the head alone without a body, and so is a target without a path
answered. Where no route leads from a path, a refusal keeps its body.
-/

namespace WalletEvents

/-- What is behind a route. -/
abbrev Endpoint (m : Type → Type) := Http.Request → m Http.Response

/-- Routes of different paths, and the senders that are allowed. -/
structure Router (m : Type → Type) where
  routes : List (RoutePath × Endpoint m)
  allowList : Option AllowList

namespace Router

variable {m : Type → Type}

/-- The routes with these paths, if the paths make sense and can be told from one another. -/
def ofPaths? (allowList : Option AllowList) (paths : List (String × Endpoint m)) :
    Option (Router m) :=
  (RoutePath.readAll? paths).map (⟨·, allowList⟩)

/-- What follows the scheme of a target that names the host. -/
def behindScheme? : List Char → Option (List Char)
  | [] => none
  | ':' :: '/' :: '/' :: rest => some rest
  | _ :: rest => behindScheme? rest

/-- Whether the path of a target ends before the character. -/
def endsPath (c : Char) : Bool := c == '?' || c == '#'

/-- The path that a request asks for; there is none if the target names nothing but a host. -/
def requestedPath (target : String) : List Char :=
  match target.toList with
  | '/' :: rest => '/' :: rest.takeWhile fun c => !endsPath c
  | target =>
    match behindScheme? target with
    | none => []
    | some rest =>
      match (rest.dropWhile fun c => c != '/' && !endsPath c).takeWhile fun c => !endsPath c with
      | [] => ['/']
      | path => path

/-- What is behind the path that a request asks for. -/
def endpoint? (r : Router m) (target : String) : Option (Endpoint m) :=
  RoutePath.lead? r.routes (requestedPath target)

/-- Whether the sender of a request is allowed. -/
def admits (r : Router m) (request : Http.Request) : Bool :=
  match r.allowList with
  | none => true
  | some list => (sender? request.headers request.peer).any list.allows

/-- The refusal of a request whose path leads nowhere. -/
def refusalNowhere (request : Http.Request) : Http.Response :=
  let refusal := NoticeFault.forbidden.response
  if requestedPath request.target = [] then refusal.answering request.method else refusal

def respond [Monad m] (r : Router m) (request : Http.Request) : m Http.Response := do
  match r.endpoint? request.target with
  | none => return if r.admits request then .ofStatus 404 else refusalNowhere request
  | some endpoint =>
    let refusal := NoticeFault.forbidden.response.answering request.method
    if request.method != "POST" then
      let response := if r.admits request then .ofStatus 405 else refusal
      return { response with allow := some "POST" }
    else if r.admits request then endpoint request
    else return refusal

end Router

/-- The greatest length of a body. -/
def maxBodyLength : Nat := 2097152

/-- The response to a body that is too long. -/
def tooLong : Http.Response :=
  .plain 413 "Failed to buffer the request body: length limit exceeded"

namespace Receiver

variable {σ : Type}

/-- What is behind the route of a kind of notices. -/
def endpoint (r : Receiver σ) (kind : NoticeKind) : Endpoint (Activity (Reception σ)) :=
  fun request =>
    if maxBodyLength < request.body.length then pure tooLong
    else do return kind.response (← r.receive kind request.headers request.body)

/-- The paths of the routes that are enabled and have a key. -/
def enabledPaths (c : WebhookConfig) (s : WebhookSecrets) : List (String × NoticeKind) :=
  (match c.transactions, s.transactionKey with
    | some route, some _ => [(route.path, .transaction)]
    | _, _ => []) ++
  (match c.bills, s.billSecret with
    | some route, some _ => [(route.path, .bill)]
    | _, _ => [])

/-- The router of a configuration, if its paths make sense and are different. -/
def router? (r : Receiver σ) (c : WebhookConfig) : Option (Router (Activity (Reception σ))) :=
  Router.ofPaths? c.allowList ((enabledPaths c r.secrets).map fun (path, kind) => (path, r.endpoint kind))

/-- Both routes on their usual paths, with keys or without. -/
def usualRouter? (r : Receiver σ) : Option (Router (Activity (Reception σ))) :=
  Router.ofPaths? none [
    (TransactionRoute.usual.path, r.endpoint .transaction),
    (BillRoute.usual.path, r.endpoint .bill)]

end Receiver

end WalletEvents
