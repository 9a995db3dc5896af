import WalletEvents.Payment.Transaction

/-!
# Notices of wallet payments

A notice tells of one payment of the wallet as it happens. It holds the same data as a record of the
history in slightly different types, with the signature of the service and the list of the fields
that were signed.
-/

namespace WalletEvents

/-- The payment inside a notice. -/
structure NoticePayment where
  txnId : String
  date : Moment
  type : TransactionType
  status : TransactionStatus
  errorCode : Option Json
  personId : Option Int64
  account : String
  comment : Option String
  provider : Option Json
  sum : Money
  commission : Option Money
  total : Option Money
  signFields : Option String

/-- A notice of a wallet payment. -/
structure PaymentNotice where
  messageId : String
  hookId : String
  payment : NoticePayment
  hash : String
  version : String
  test : Bool

section Reading

variable {δ : Type} [Json.Document δ]

def NoticePayment.read? (d : δ) : Option NoticePayment := do
  let fields ← Json.fields? ["txnId", "date", "type", "status", "errorCode", "personId", "account",
    "comment", "provider", "sum", "commission", "total", "signFields"] d
  some {
    txnId := ← fields.required? "txnId" Json.text?
    date := ← fields.required? "date" Json.moment?
    type := ← fields.required? "type" Json.named?
    status := ← fields.required? "status" Json.named?
    errorCode := ← fields.optional? "errorCode" Json.any?
    personId := ← fields.optional? "personId" Json.int64?
    account := ← fields.required? "account" Json.text?
    comment := ← fields.optional? "comment" Json.text?
    provider := ← fields.optional? "provider" Json.any?
    sum := ← fields.required? "sum" Money.read?
    commission := ← fields.optional? "commission" Money.read?
    total := ← fields.optional? "total" Money.read?
    signFields := ← fields.optional? "signFields" Json.text? }

/-- Reads a notice of a wallet payment; it is no test unless it says so. -/
def PaymentNotice.read? (d : δ) : Option PaymentNotice := do
  let fields ← Json.fields? ["messageId", "hookId", "payment", "hash", "version", "test"] d
  some {
    messageId := ← fields.required? "messageId" Json.text?
    hookId := ← fields.required? "hookId" Json.text?
    payment := ← fields.required? "payment" NoticePayment.read?
    hash := ← fields.required? "hash" Json.text?
    version := ← fields.required? "version" Json.text?
    test := ← fields.getD? "test" false Json.boolean? }

end Reading

def NoticePayment.toJson (p : NoticePayment) : Json :=
  .record [
    ("txnId", some (.string p.txnId)),
    ("date", some (.ofMoment p.date)),
    ("type", some (.ofNamed p.type)),
    ("status", some (.ofNamed p.status)),
    ("errorCode", p.errorCode),
    ("personId", p.personId.map .ofInt64),
    ("account", some (.string p.account)),
    ("comment", p.comment.map .string),
    ("provider", p.provider),
    ("sum", some p.sum.toJson),
    ("commission", p.commission.map Money.toJson),
    ("total", p.total.map Money.toJson),
    ("signFields", p.signFields.map .string)]

def PaymentNotice.toJson (n : PaymentNotice) : Json :=
  .record [
    ("messageId", some (.string n.messageId)),
    ("hookId", some (.string n.hookId)),
    ("payment", some n.payment.toJson),
    ("hash", some (.string n.hash)),
    ("version", some (.string n.version)),
    ("test", some (.boolean n.test))]

end WalletEvents
