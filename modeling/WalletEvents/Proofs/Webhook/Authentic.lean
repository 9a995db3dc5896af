import WalletEvents.Proofs.Json.Compress
import WalletEvents.Proofs.Webhook.Signature
import WalletEvents.Webhook.Router

/-!
# Authentic requests

A request is authentic on a route when its body is not too long, is a JSON text
whose value is a notice of the kind of the route, and carries a signature under
the key of that route: a wallet payment in its own `hash`, over the fields that
it names itself, and a bill in a header of the request, over fixed fields.

What is said here about a request is said without the steps in which a receiver
finds it out. `Authentic.exists_arrival` and `authentic_of_arrival` connect the
two, and `authentic_billRequest` says how to make an authentic request.
-/

namespace WalletEvents

/-- The value is a notice that is read as the event and signed under the key of its kind. -/
inductive WebhookSecrets.Signed (s : WebhookSecrets) (headers : List Http.Header) :
    NoticeKind → Json → Event → Prop
  | transaction
      {raw : Json} {n : PaymentNotice} {key : List UInt8} {text : String}
      (hread : PaymentNotice.read? raw = some n)
      (hkey : s.transactionKey = some key)
      (htext : n.payment.signedText? = some text)
      (hverify : Signature.verify key text n.hash = true) :
      WebhookSecrets.Signed s headers .transaction raw (.notice n)
  | bill
      {raw : Json} {n : BillNotice} {secret : List UInt8}
      (hread : BillNotice.read? raw = some n)
      (hkey : s.billSecret = some secret)
      (hverify : Signature.verify secret n.bill.signedText (billSignature headers) = true) :
      WebhookSecrets.Signed s headers .bill raw (.bill n)

/-- The body of the request is the text of a value that is signed as an event of a kind. -/
structure WebhookSecrets.Authentic (s : WebhookSecrets) (kind : NoticeKind) (q : Http.Request)
    (raw : Json) (e : Event) : Prop where
  length_le : q.body.length ≤ maxBodyLength
  parsed : Json.parse? q.body = some raw
  signed : s.Signed q.headers kind raw e

namespace WebhookSecrets

variable {s : WebhookSecrets} {kind : NoticeKind} {q : Http.Request} {raw : Json} {e : Event}

/-- The receiver finds a signed value signed. -/
theorem Signed.exists_arrival
    {headers : List Http.Header}
    (h : s.Signed headers kind raw e) :
    ∃ a, Arrival.ofJson? headers raw kind = some a ∧
      a.event = e ∧ a.fingerprint = .of raw ∧
      (s.key? kind).any a.signedBy = true := by
  cases h with
  | @transaction raw n key text hread hkey htext hverify =>
      refine ⟨⟨.notice n, .of raw, n.verify⟩, ?_, rfl, rfl, ?_⟩
      · simp only [Arrival.ofJson?, hread, Option.map_some]
      · simp only [key?, hkey, Option.any_some, PaymentNotice.verify, htext, hverify]
  | @bill raw n secret hread hkey hverify =>
      refine
        ⟨⟨.bill n, .of raw, fun secret => n.bill.verify secret (billSignature headers)⟩,
          ?_, rfl, rfl, ?_⟩
      · simp only [Arrival.ofJson?, hread, Option.map_some]
      · simp only [key?, hkey, Option.any_some, Bill.verify, hverify]

/-- What the receiver finds signed is a signed value. -/
theorem signed_of_arrival
    {headers : List Http.Header} {a : Arrival}
    (hread : Arrival.ofJson? headers raw kind = some a)
    (hsigned : (s.key? kind).any a.signedBy = true) :
    s.Signed headers kind raw a.event := by
  obtain ⟨key, hkey, hby⟩ := (Option.any_eq_true _ _).mp hsigned
  cases kind with
  | transaction =>
      obtain ⟨n, hn, rfl⟩ := Option.map_eq_some_iff.mp hread
      obtain ⟨text, htext, hverify⟩ := PaymentNotice.verify_iff.mp hby
      exact Signed.transaction hn hkey htext hverify
  | bill =>
      obtain ⟨n, hn, rfl⟩ := Option.map_eq_some_iff.mp hread
      dsimp only at hby
      rw [Bill.verify] at hby
      exact Signed.bill hn hkey hby

theorem Authentic.exists_arrival
    (h : s.Authentic kind q raw e) :
    ∃ a, Arrival.read? kind q.headers q.body = some a ∧
      a.event = e ∧ a.fingerprint = .of raw ∧
      (s.key? kind).any a.signedBy = true := by
  obtain ⟨a, hread, he, hf, hsigned⟩ := h.signed.exists_arrival
  refine ⟨a, ?_, he, hf, hsigned⟩
  unfold Arrival.read?
  rw [h.parsed]
  exact hread

theorem authentic_of_arrival
    {a : Arrival}
    (hlen : ¬ maxBodyLength < q.body.length)
    (hread : Arrival.read? kind q.headers q.body = some a)
    (hsigned : (s.key? kind).any a.signedBy = true) :
    ∃ raw, s.Authentic kind q raw a.event ∧ a.fingerprint = .of raw := by
  obtain ⟨raw, hparsed, hread⟩ := Option.bind_eq_some_iff.mp hread
  have hsigned' := signed_of_arrival hread hsigned
  refine ⟨raw, ⟨Nat.le_of_not_lt hlen, hparsed, hsigned'⟩, ?_⟩
  obtain ⟨a', hread', _, hf, _⟩ := hsigned'.exists_arrival
  rw [hread] at hread'
  exact Option.some.inj hread' ▸ hf

end WebhookSecrets

/-- The request with the text of a value and the signature of a bill. -/
def billRequest (target : String) (secret : List UInt8) (raw : Json) (b : Bill) :
    Http.Request where
  method := "POST"
  target := target
  headers := [(billSignatureHeader, Utf8.encode (Signature.sign secret b.signedText))]
  body := Utf8.encode raw.compress
  peer := none

theorem WebhookSecrets.authentic_billRequest
    {s : WebhookSecrets} {secret : List UInt8} {raw : Json} {n : BillNotice}
    (hkey : s.billSecret = some secret)
    (hlen : (Utf8.encode raw.compress).length ≤ maxBodyLength)
    (hparsed : Json.parse? (Utf8.encode raw.compress) = some raw)
    (hread : BillNotice.read? raw = some n) (target : String) :
    s.Authentic .bill (billRequest target secret raw n.bill) raw (.bill n) := by
  refine ⟨hlen, hparsed, .bill hread hkey ?_⟩
  have hheader : billSignature (billRequest target secret raw n.bill).headers =
      Signature.sign secret n.bill.signedText := billSignature_of_sign _ _ _
  rw [hheader]
  exact Signature.verify_self _ _

/-- The value of a small notice of a bill, which gives the fields in their order. -/
def smallValue : Json :=
  .array [.array [.string "shop", .string "7", .array [.string "1.00", .string "RUB"],
    .array [.string "PAID", .null], .null, .null, .null, .null, .null], .string "1"]

/-- The small notice itself. -/
def smallNotice : BillNotice :=
  ⟨⟨"shop", "7", ⟨"1.00", "RUB"⟩, ⟨.paid, none⟩, none, none, none, none, none⟩, "1"⟩

/-- The secret of the small notice, and no other key. -/
def smallSecrets : WebhookSecrets := ⟨none, some [115, 51]⟩

theorem parse?_smallValue :
    Json.parse? (Utf8.encode smallValue.compress) = some smallValue := by
  unfold Json.parse?
  rw [JsonText.parse?_compress]
  simp [smallValue, Json.tree, Json.itemTrees, JsonText.depthLimit, JsonText.value?,
    Json.text?_pieces]

theorem authentic_small (target : String) :
    smallSecrets.Authentic .bill (billRequest target [115, 51] smallValue smallNotice.bill)
      smallValue (.bill smallNotice) :=
  WebhookSecrets.authentic_billRequest rfl (by decide +kernel) parse?_smallValue rfl target

end WalletEvents
