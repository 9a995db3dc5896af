import WalletEvents.Http.Message
import WalletEvents.Payment.Hook
import WalletEvents.Service
import WalletEvents.Url.Parser

/-!
# The client of the wallet service

A wallet asks the service over a link that carries requests and brings responses. It opens a session
when the first request is made and can close it again.

**Responses.** A response of success has a JSON body of the expected type. Any other response is a
refusal, whose body may explain it.

**Limits.** The body of a refusal is read as UTF-8, whatever character set the response names for it.
User information in the address of the service stays in the URLs of the requests; no credentials are
made of it beside the token.

**Binding.** `Wallet.bindWebhook` makes the service send its notices to an address. A hook that is active
for that address is kept, any other one is replaced.
-/

namespace WalletEvents

/-- A request of a wallet. -/
structure WalletRequest where
  method : String
  url : Url
  authorization : String
  deriving DecidableEq

/-- The kind of bodies that a wallet sends and accepts. -/
def WalletRequest.mediaType : String := "application/json"

/-- A response of the service. -/
structure WalletResponse where
  status : Nat
  body : List UInt8
  deriving DecidableEq

/-- Carries a request and brings its response, unless the transfer breaks off. -/
abbrev Link (m : Type → Type) := WalletRequest → m (Option WalletResponse)

/-- What a wallet knows of its account and of the service. -/
structure Wallet where
  token : String
  phone : Option String
  billSecret : Option String
  baseUrl : String
  deriving DecidableEq

/-- Whether the session of a wallet is open. -/
abbrev Session := Bool

/-- Work of a wallet over a link: it may fail, and it may open or close the session. -/
abbrev WalletM (m : Type → Type) := ExceptT Failure (StateT Session m)

namespace Wallet

/-- A wallet of the real service with nothing but its token. -/
def new (token : String) : Wallet := ⟨token, none, none, "https://edge.qiwi.com/"⟩

/-- The wallet with a telephone number; plus signs before it are dropped. -/
def withPhone (w : Wallet) (phone : String) : Wallet :=
  { w with phone := some (String.ofList (phone.toList.dropWhile (· == '+'))) }

/-- The wallet with the secret for notices of bills. -/
def withBillSecret (w : Wallet) (secret : String) : Wallet := { w with billSecret := some secret }

/-- The wallet of a service at another address, which is made to end with a slash. -/
def withBaseUrl (w : Wallet) (url : String) : Wallet :=
  { w with baseUrl := if url.toList.getLast? = some '/' then url else url ++ "/" }

variable {m : Type → Type} [Monad m] (w : Wallet) (link : Link m)

/-- Opens the session. -/
def ensureReady : WalletM m Unit := set true

/-- Closes the session. -/
def close : WalletM m Unit := set false

/-- The URL of a request with the fields of its query. -/
def requestUrl (endpoint : String) (fields : List (String × String)) : Except UrlFault Url := do
  let base ← Url.read w.baseUrl
  return (← base.join endpoint).withForm fields

/-- Sends a request. -/
def send (method endpoint : String) (fields : List (String × String)) : WalletM m WalletResponse := do
  ensureReady
  match w.requestUrl endpoint fields with
  | .error fault => throw (.url fault)
  | .ok url =>
    if !Http.isHeaderValue w.token || !url.isWeb then throw (.exchange .request)
    match ← link ⟨method, url, "Bearer " ++ w.token⟩ with
    | some response => return response
    | none => throw (.exchange .transfer)

/-- The failure that a response of no success stands for; its text is that of the body in UTF-8. -/
def refusal (r : WalletResponse) : Failure :=
  let body := Utf8.decodeLossy r.body
  .refused r.status body ((Json.unread? (Utf8.encode body)).bind Fault.read?)

/-- What a response holds. -/
def content {α : Type} (read : Json.Unread → Option α) (r : WalletResponse) : Except Failure α :=
  if Http.isSuccess r.status then
    match (Json.unread? r.body).bind read with
    | some a => .ok a
    | none => .error (.exchange .body)
  else .error (refusal r)

/-- Sends a request and reads its response. -/
def ask {α : Type} (read : Json.Unread → Option α) (method endpoint : String)
    (fields : List (String × String)) : WalletM m α := do
  match content read (← w.send link method endpoint fields) with
  | .ok a => return a
  | .error failure => throw failure

/-- The fields of a query of the history; dates are only sent in pairs. -/
def historyFields (q : HistoryQuery) : List (String × String) :=
  [("rows", Nat.repr (HistoryQuery.clampRows q.rows)), ("operation", Named.name q.operation)] ++
    q.sources.mapIdx (fun i source => ("sources[" ++ Nat.repr i ++ "]", source)) ++
    match q.startDate, q.endDate with
    | some start, some stop =>
      [("startDate", start.wholeSecondText), ("endDate", stop.wholeSecondText)]
    | _, _ => []

/-- Asks for a page of the history. -/
def fetchHistory (q : HistoryQuery) : WalletM m History :=
  match w.phone with
  | none => throw (.missingField "phone_number")
  | some phone =>
    w.ask link History.read? "GET" ("payment-history/v2/persons/" ++ phone ++ "/payments")
      (historyFields q)

/-- Asks for the active hook; there may be none. -/
def activeWebhook : WalletM m (Option Hook) :=
  tryCatch (some <$> w.ask link Hook.read? "GET" "payment-notifier/v1/hooks/active" [])
    fun failure => if failure.isNotFound then return none else throw failure

/-- Registers an address for notices of payments in both directions. -/
def registerWebhook (url : Url) : WalletM m Hook :=
  w.ask link Hook.read? "PUT" "payment-notifier/v1/hooks"
    [("hookType", "1"), ("param", url.text), ("txnType", "2")]

/-- Deletes a hook; what a response of success holds does not matter. -/
def deleteWebhook (hookId : String) : WalletM m Unit := do
  let response ← w.send link "DELETE" ("payment-notifier/v1/hooks/" ++ hookId) []
  if !Http.isSuccess response.status then throw (refusal response)

/-- Asks for the key of a hook. -/
def webhookKey (hookId : String) : WalletM m String := do
  let key ← w.ask link HookKey.read? "GET" ("payment-notifier/v1/hooks/" ++ hookId ++ "/key") []
  return key.key

/-- Makes the service send its notices to an address, and gives the key of the hook. -/
def bindWebhook (url : Url) : WalletM m String := do
  match ← w.activeWebhook link with
  | some hook =>
    if hook.hookParameters.url = url.text then w.webhookKey link hook.hookId
    else
      w.deleteWebhook link hook.hookId
      w.webhookKey link (← w.registerWebhook link url).hookId
  | none => w.webhookKey link (← w.registerWebhook link url).hookId

def service : PaymentService (StateT Session m) where
  history := fun q => (History.data <$> w.fetchHistory link q : WalletM m (List Transaction)).run
  hookKey := fun url => (w.bindWebhook link url).run
  billSecret := w.billSecret
  close := (close : WalletM m Unit).run

end Wallet

end WalletEvents
