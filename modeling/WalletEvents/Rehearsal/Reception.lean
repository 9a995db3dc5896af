import WalletEvents.Rehearsal.Session
import WalletEvents.Webhook.Router

/-!
# Receiving notices in a rehearsal

Requests come one after another to one receiver, whose events go to scripted handlers. Every response is
shown with what was written into the journal and the number of notices remembered after it.
-/

namespace WalletEvents.Rehearsal

def receiverOf (d : Dispatcher (Activity World)) (secrets : WebhookSecrets) : Receiver World :=
  ⟨secrets, d.processEvent⟩

/-- What a request shows. -/
structure ResponseShown where
  response : Http.Response
  log : List Record
  remembered : Nat

/-- The state before the first request. -/
def reception (texts : List (String × String)) : Reception World := ⟨.empty, World.new texts []⟩

/-- Requests, one after another. -/
def receiveSession (router : Router (Activity (Reception World))) (time : Nat)
    (s : Reception World) : List Http.Request → Option (List ResponseShown)
  | [] => some []
  | request :: rest => do
    let before := { s with inner := s.inner.clearJournal }
    match (router.respond request).run time before with
    | (some response, time, s) =>
      some (⟨response, s.inner.log, s.seen.size⟩ :: (← receiveSession router time s rest))
    | (none, _) => none

end WalletEvents.Rehearsal
