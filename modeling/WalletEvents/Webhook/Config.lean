import WalletEvents.Network.AllowList
import WalletEvents.Service
import WalletEvents.Url.Parser
import WalletEvents.Webhook.Signature

/-!
# Configuration of notices

Where notices are received, on which routes, from which senders, and where the keys of their signatures
come from. Every field may be left out.

**Keys.** A route is only of use with its key. The key of the payment route is given in base 64, or the
service gives it when an address for notices is registered; the secret of the bill route is given or
known to the service. `WebhookConfig.resolve` finds the keys of all enabled routes or refuses the whole
configuration, and it registers an address only when nothing else is missing.
-/

namespace WalletEvents

/-- The route for notices of payments. -/
structure TransactionRoute where
  path : String
  keyBase64 : Option String
  publicUrl : Option Url

/-- The route for notices of bills. -/
structure BillRoute where
  path : String
  secret : Option String

/-- How to receive notices. -/
structure WebhookConfig where
  host : String
  port : Nat
  transactions : Option TransactionRoute
  bills : Option BillRoute
  allowList : Option AllowList

/-- The keys of the enabled routes. -/
structure WebhookSecrets where
  transactionKey : Option (List UInt8)
  billSecret : Option (List UInt8)
  deriving DecidableEq

namespace TransactionRoute

/-- The usual path, without a key. -/
def usual : TransactionRoute := ⟨"/webhooks/qiwi/operation_history/", none, none⟩

end TransactionRoute

namespace BillRoute

/-- The usual path, without a secret. -/
def usual : BillRoute := ⟨"/webhooks/qiwi/bills/", none⟩

end BillRoute

namespace WebhookConfig

/-- Both routes on the usual paths, for every sender. -/
def usual : WebhookConfig := ⟨"0.0.0.0", 8080, some .usual, some .usual, none⟩

/-- The end point to listen on. -/
def bindAddress (c : WebhookConfig) : String := c.host ++ ":" ++ Nat.repr c.port

section Reading

variable {δ : Type} [Json.Document δ]

def url? (d : δ) : Option Url := (Json.text? d).bind fun text => (Url.read text).toOption

/-- Reads the route for notices of payments. -/
def transactionRoute? (d : δ) : Option TransactionRoute := do
  let fields ← Json.fields? ["path", "key_base64", "public_url"] d
  some {
    path := ← fields.getD? "path" TransactionRoute.usual.path Json.text?
    keyBase64 := ← fields.getD? "key_base64" none (Json.nullable? Json.text?)
    publicUrl := ← fields.getD? "public_url" none (Json.nullable? url?) }

/-- Reads the route for notices of bills. -/
def billRoute? (d : δ) : Option BillRoute := do
  let fields ← Json.fields? ["path", "secret_p2p"] d
  some {
    path := ← fields.getD? "path" BillRoute.usual.path Json.text?
    secret := ← fields.getD? "secret_p2p" none (Json.nullable? Json.text?) }

def read? (d : δ) : Option WebhookConfig := do
  let fields ← Json.fields? ["host", "port", "transactions", "bills", "ip_filter"] d
  some {
    host := ← fields.getD? "host" usual.host Json.text?
    port := ← fields.getD? "port" usual.port (Json.natural? 65535)
    transactions := ← fields.getD? "transactions" usual.transactions (Json.nullable? transactionRoute?)
    bills := ← fields.getD? "bills" usual.bills (Json.nullable? billRoute?)
    allowList := ← fields.getD? "ip_filter" none (Json.nullable? AllowList.read?) }

end Reading

section Resolving

variable {m : Type → Type} [Monad m]

/-- The secret of the bill route, if that is enabled. -/
def billSecret (known : Option String) : Option BillRoute → Except Failure (Option (List UInt8))
  | none => .ok none
  | some route =>
    match route.secret.or known with
    | some secret => .ok (some (Utf8.encode secret))
    | none => .error (.configuration .noBillSecret)

/-- The key of the payment route, if that is enabled. -/
def transactionKey (hookKey : Url → m (Except Failure String)) :
    Option TransactionRoute → m (Except Failure (Option (List UInt8)))
  | none => pure (.ok none)
  | some ⟨_, some key, _⟩ => pure ((Signature.key key).map some)
  | some ⟨_, none, some url⟩ => do
    return ((← hookKey url).bind Signature.key).map some
  | some ⟨_, none, none⟩ => pure (.error (.configuration .noTransactionKey))

/-- Finds the keys of all enabled routes. -/
def resolve (c : WebhookConfig) (service : PaymentService m) : m (Except Failure WebhookSecrets) := do
  if c.transactions.isNone && c.bills.isNone then return .error (.configuration .noRoute)
  match billSecret service.billSecret c.bills with
  | .error failure => return .error failure
  | .ok bill => return (← transactionKey service.hookKey c.transactions).map (⟨·, bill⟩)

end Resolving

end WebhookConfig

/-- What the secrets show of themselves: which of them there are. -/
def WebhookSecrets.shown (s : WebhookSecrets) : String :=
  let shown (secret : Option (List UInt8)) := if secret.isSome then "Some(\"***\")" else "None"
  "WebhookSecrets \x7b transaction_key: " ++ shown s.transactionKey ++ ", bill_secret: " ++
    shown s.billSecret ++ " \x7d"

end WalletEvents
