import WalletEvents.Payment.Money

/-!
# The history of a wallet

A transaction is one record of the history; its identifiers grow with time. A page of the history
may name the transaction that the next page begins with.
-/

namespace WalletEvents

/-- The way a payment goes: into the wallet, out of it, or from a card of the wallet. -/
inductive TransactionType where
  | incoming
  | outgoing
  | card
  deriving DecidableEq

instance : Named TransactionType where
  name
    | .incoming => "IN"
    | .outgoing => "OUT"
    | .card => "QIWI_CARD"
  all := [.incoming, .outgoing, .card]

/-- How far a payment has come. -/
inductive TransactionStatus where
  | waiting
  | success
  | error
  deriving DecidableEq

instance : Named TransactionStatus where
  name
    | .waiting => "WAITING"
    | .success => "SUCCESS"
    | .error => "ERROR"
  all := [.waiting, .success, .error]

/-- Which operations of the history are asked for. -/
inductive OperationType where
  | all
  | incoming
  | outgoing
  | card
  deriving DecidableEq

instance : Named OperationType where
  name
    | .all => "ALL"
    | .incoming => "IN"
    | .outgoing => "OUT"
    | .card => "QIWI_CARD"
  all := [.all, .incoming, .outgoing, .card]

/-- The service a payment went through. -/
structure Provider where
  id : Option Int64
  shortName : Option String
  longName : Option String
  logoUrl : Option String
  deriving DecidableEq

/-- One record of the history. -/
structure Transaction where
  txnId : Int64
  personId : Option Int64
  date : Moment
  errorCode : Option Int64
  error : Option String
  status : TransactionStatus
  type : TransactionType
  statusText : Option String
  trmTxnId : Option String
  account : Option String
  sum : Money
  commission : Option Money
  total : Option Money
  provider : Option Provider
  comment : Option String
  currencyRate : Option Double
  deriving DecidableEq

/-- A page of the history. -/
structure History where
  data : List Transaction
  nextTxnId : Option Int64
  nextTxnDate : Option Moment
  deriving DecidableEq

section Reading

variable {δ : Type} [Json.Document δ]

def Provider.read? (d : δ) : Option Provider := do
  let fields ← Json.fields? ["id", "shortName", "longName", "logoUrl"] d
  some {
    id := ← fields.optional? "id" Json.int64?
    shortName := ← fields.optional? "shortName" Json.text?
    longName := ← fields.optional? "longName" Json.text?
    logoUrl := ← fields.optional? "logoUrl" Json.text? }

def Transaction.read? (d : δ) : Option Transaction := do
  let fields ← Json.fields? ["txnId", "personId", "date", "errorCode", "error", "status", "type",
    "statusText", "trmTxnId", "account", "sum", "commission", "total", "provider", "comment",
    "currencyRate"] d
  some {
    txnId := ← fields.required? "txnId" Json.int64?
    personId := ← fields.optional? "personId" Json.int64?
    date := ← fields.required? "date" Json.moment?
    errorCode := ← fields.optional? "errorCode" Json.int64?
    error := ← fields.optional? "error" Json.text?
    status := ← fields.required? "status" Json.named?
    type := ← fields.required? "type" Json.named?
    statusText := ← fields.optional? "statusText" Json.text?
    trmTxnId := ← fields.optional? "trmTxnId" Json.text?
    account := ← fields.optional? "account" Json.text?
    sum := ← fields.required? "sum" Money.read?
    commission := ← fields.optional? "commission" Money.read?
    total := ← fields.optional? "total" Money.read?
    provider := ← fields.optional? "provider" Provider.read?
    comment := ← fields.optional? "comment" Json.text?
    currencyRate := ← fields.optional? "currencyRate" Json.double? }

/-- Reads a page of the history. -/
def History.read? (d : δ) : Option History := do
  let fields ← Json.fields? ["data", "nextTxnId", "nextTxnDate"] d
  some {
    data := ← fields.required? "data" (Json.list? Transaction.read?)
    nextTxnId := ← fields.optional? "nextTxnId" Json.int64?
    nextTxnDate := ← fields.optional? "nextTxnDate" Json.moment? }

end Reading

def Provider.toJson (p : Provider) : Json :=
  .record [
    ("id", p.id.map .ofInt64),
    ("shortName", p.shortName.map .string),
    ("longName", p.longName.map .string),
    ("logoUrl", p.logoUrl.map .string)]

def Transaction.toJson (t : Transaction) : Json :=
  .record [
    ("txnId", some (.ofInt64 t.txnId)),
    ("personId", t.personId.map .ofInt64),
    ("date", some (.ofMoment t.date)),
    ("errorCode", t.errorCode.map .ofInt64),
    ("error", t.error.map .string),
    ("status", some (.ofNamed t.status)),
    ("type", some (.ofNamed t.type)),
    ("statusText", t.statusText.map .string),
    ("trmTxnId", t.trmTxnId.map .string),
    ("account", t.account.map .string),
    ("sum", some t.sum.toJson),
    ("commission", t.commission.map Money.toJson),
    ("total", t.total.map Money.toJson),
    ("provider", t.provider.map Provider.toJson),
    ("comment", t.comment.map .string),
    ("currencyRate", t.currencyRate.map fun rate => .number (.double rate))]

/-- The page as a record. -/
def History.toJson (h : History) : Json :=
  .record [
    ("data", some (.array (h.data.map Transaction.toJson))),
    ("nextTxnId", h.nextTxnId.map .ofInt64),
    ("nextTxnDate", h.nextTxnDate.map .ofMoment)]

end WalletEvents
