import WalletEvents.Activity
import WalletEvents.Webhook.Config
import WalletEvents.Webhook.Fingerprint
import WalletEvents.Webhook.Reply

/-!
# Receiving notices

A notice goes through four steps: its body is read, its fingerprint is looked for among the notices
taken before, its signature is verified, and its fingerprint is remembered; only then is its event
processed.

**Copies.** A notice whose fingerprint is known is taken without a look at its signature and without
being processed. The fingerprint is looked up when the notice comes and again when it is remembered,
since copies of a notice may be under way at the same time.
-/

namespace WalletEvents

/-- What all notices share: the fingerprints of those that were taken, and a world of their own. -/
structure Reception (σ : Type) where
  seen : SeenNotices
  inner : σ

def billSignatureHeader : String := "X-Api-Signature-SHA256"

/-- The signature of a bill that a request carries, which is empty if it carries none. -/
def billSignature (headers : List Http.Header) : String :=
  String.ofList
    (((Http.header? billSignatureHeader.toLower headers).bind Http.headerText?).getD [])

/-- A notice that was read: its event, its fingerprint, and whether a key has signed it. -/
structure Arrival where
  event : Event
  fingerprint : Fingerprint
  signedBy : List UInt8 → Bool

namespace Arrival

/-- The notice in a JSON value. -/
def ofJson? (headers : List Http.Header) (raw : Json) : NoticeKind → Option Arrival
  | .transaction =>
    (PaymentNotice.read? raw).map fun n => ⟨.notice n, .of raw, n.verify⟩
  | .bill =>
    (BillNotice.read? raw).map fun n =>
      ⟨.bill n, .of raw, fun secret => n.bill.verify secret (billSignature headers)⟩

/-- The notice in the body of a request. -/
def read? (kind : NoticeKind) (headers : List Http.Header) (body : List UInt8) : Option Arrival :=
  (Json.parse? body).bind fun raw => ofJson? headers raw kind

end Arrival

def WebhookSecrets.key? (s : WebhookSecrets) : NoticeKind → Option (List UInt8)
  | .transaction => s.transactionKey
  | .bill => s.billSecret

/-- Receives notices: the keys, and what becomes of the events. -/
structure Receiver (σ : Type) where
  secrets : WebhookSecrets
  process : Event → Activity σ (Except DispatchError Unit)

namespace Receiver

variable {σ : Type}

def isKnown (f : Fingerprint) : Activity (Reception σ) Bool := .read fun s => s.seen.contains f

/-- Remembers a fingerprint; tells whether it was new. -/
def remember (f : Fingerprint) : Activity (Reception σ) Bool :=
  .modifyGet fun _ s => let (fresh, seen) := s.seen.remember f; (fresh, { s with seen := seen })

/-- Works on the world of the notices. -/
def within {α : Type} (a : Activity σ α) : Activity (Reception σ) α :=
  a.zoom Reception.inner fun inner s => { s with inner := inner }

def receive (r : Receiver σ) (kind : NoticeKind) (headers : List Http.Header) (body : List UInt8) :
    Activity (Reception σ) (Except NoticeFault Unit) :=
  match Arrival.read? kind headers body with
  | none => pure (.error .invalid)
  | some arrival => do
    if ← isKnown arrival.fingerprint then return .ok ()
    if !(r.secrets.key? kind).any arrival.signedBy then return .error (.wrongSignature kind)
    if !(← remember arrival.fingerprint) then return .ok ()
    return (← within (r.process arrival.event)).mapError .handler

end Receiver

end WalletEvents
