import WalletEvents.Payment.Field

/-!
# Bills

A bill asks a customer for a payment, and a notice tells of a change of its status. The amount of a
bill is a text, and its signature is sent apart from the notice.
-/

namespace WalletEvents

/-- How far a bill has come. -/
inductive BillStatus where
  | waiting
  | paid
  | rejected
  | expired
  | partially
  deriving DecidableEq

instance : Named BillStatus where
  name
    | .waiting => "WAITING"
    | .paid => "PAID"
    | .rejected => "REJECTED"
    | .expired => "EXPIRED"
    | .partially => "PARTIAL"
  all := [.waiting, .paid, .rejected, .expired, .partially]

/-- The amount of a bill and the name of its currency, both as written. -/
structure BillAmount where
  value : String
  currency : String
  deriving DecidableEq

/-- The status of a bill and the time of its last change. -/
structure BillStatusInfo where
  value : BillStatus
  changedDateTime : Option Moment
  deriving DecidableEq

/-- Who is to pay a bill. -/
structure Customer where
  phone : Option String
  email : Option String
  account : Option String
  deriving DecidableEq

/-- A bill. -/
structure Bill where
  siteId : String
  billId : String
  amount : BillAmount
  status : BillStatusInfo
  customer : Option Customer
  customFields : Option Json
  comment : Option String
  creationDateTime : Option Moment
  expirationDateTime : Option Moment

/-- A notice of a change of a bill. -/
structure BillNotice where
  bill : Bill
  version : String

section Reading

variable {δ : Type} [Json.Document δ]

def BillAmount.read? (d : δ) : Option BillAmount := do
  let fields ← Json.fields? ["value", "currency"] d
  some {
    value := ← fields.required? "value" Json.text?
    currency := ← fields.required? "currency" Json.text? }

def BillStatusInfo.read? (d : δ) : Option BillStatusInfo := do
  let fields ← Json.fields? ["value", "changedDateTime"] d
  some {
    value := ← fields.required? "value" Json.named?
    changedDateTime := ← fields.optional? "changedDateTime" Json.moment? }

def Customer.read? (d : δ) : Option Customer := do
  let fields ← Json.fields? ["phone", "email", "account"] d
  some {
    phone := ← fields.optional? "phone" Json.text?
    email := ← fields.optional? "email" Json.text?
    account := ← fields.optional? "account" Json.text? }

def Bill.read? (d : δ) : Option Bill := do
  let fields ← Json.fields? ["siteId", "billId", "amount", "status", "customer", "customFields",
    "comment", "creationDateTime", "expirationDateTime"] d
  some {
    siteId := ← fields.required? "siteId" Json.text?
    billId := ← fields.required? "billId" Json.text?
    amount := ← fields.required? "amount" BillAmount.read?
    status := ← fields.required? "status" BillStatusInfo.read?
    customer := ← fields.optional? "customer" Customer.read?
    customFields := ← fields.optional? "customFields" Json.any?
    comment := ← fields.optional? "comment" Json.text?
    creationDateTime := ← fields.optional? "creationDateTime" Json.moment?
    expirationDateTime := ← fields.optional? "expirationDateTime" Json.moment? }

def BillNotice.read? (d : δ) : Option BillNotice := do
  let fields ← Json.fields? ["bill", "version"] d
  some {
    bill := ← fields.required? "bill" Bill.read?
    version := ← fields.required? "version" Json.text? }

end Reading

def BillAmount.toJson (a : BillAmount) : Json :=
  .record [
    ("value", some (.string a.value)),
    ("currency", some (.string a.currency))]

def BillStatusInfo.toJson (s : BillStatusInfo) : Json :=
  .record [
    ("value", some (.ofNamed s.value)),
    ("changedDateTime", s.changedDateTime.map .ofMoment)]

def Customer.toJson (c : Customer) : Json :=
  .record [
    ("phone", c.phone.map .string),
    ("email", c.email.map .string),
    ("account", c.account.map .string)]

def Bill.toJson (b : Bill) : Json :=
  .record [
    ("siteId", some (.string b.siteId)),
    ("billId", some (.string b.billId)),
    ("amount", some b.amount.toJson),
    ("status", some b.status.toJson),
    ("customer", b.customer.map Customer.toJson),
    ("customFields", b.customFields),
    ("comment", b.comment.map .string),
    ("creationDateTime", b.creationDateTime.map .ofMoment),
    ("expirationDateTime", b.expirationDateTime.map .ofMoment)]

def BillNotice.toJson (n : BillNotice) : Json :=
  .record [
    ("bill", some n.bill.toJson),
    ("version", some (.string n.version))]

end WalletEvents
