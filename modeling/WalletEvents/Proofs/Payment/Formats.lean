import WalletEvents.Payment.Bill
import WalletEvents.Payment.Fault
import WalletEvents.Payment.Hook
import WalletEvents.Payment.Notice
import WalletEvents.Proofs.Json.Rewritten

/-!
# The formats of the wallet service

A `WireFormat` is one of the formats in which the service sends or takes JSON: the
records of the history, notices, bills and hooks with all that they are made of,
the words that stand in them, and the faults that the service reports.

Responses of the service are read as unread texts, and notices as values.

**Results.** Each format is read alike in related documents (`WireFormat.follows`).
So the two ways agree: what is found in a text is found in its value, and what is
found in the value is found in the text as soon as the text repeats no name
(`WireFormat.paths_agree`).
-/

namespace WalletEvents

open Json (Document Follows Simulates Unread)

/-- What the service and the wallet exchange as JSON. -/
inductive WireFormat where
  | money
  | transactionType
  | transactionStatus
  | operationType
  | provider
  | transaction
  | history
  | noticePayment
  | paymentNotice
  | billStatus
  | billAmount
  | billStatusInfo
  | customer
  | bill
  | billNotice
  | hookParameters
  | hook
  | hookKey
  | fault

namespace WireFormat

/-- What is read in a format. -/
def Data : WireFormat → Type
  | .money => Money
  | .transactionType => TransactionType
  | .transactionStatus => TransactionStatus
  | .operationType => OperationType
  | .provider => Provider
  | .transaction => Transaction
  | .history => History
  | .noticePayment => NoticePayment
  | .paymentNotice => PaymentNotice
  | .billStatus => BillStatus
  | .billAmount => BillAmount
  | .billStatusInfo => BillStatusInfo
  | .customer => Customer
  | .bill => Bill
  | .billNotice => BillNotice
  | .hookParameters => HookParameters
  | .hook => Hook
  | .hookKey => HookKey
  | .fault => Fault

/-- Reads a document in a format. -/
def read? {δ : Type} [Document δ] : (format : WireFormat) → δ → Option format.Data
  | .money => Money.read?
  | .transactionType => Json.named? (α := TransactionType)
  | .transactionStatus => Json.named? (α := TransactionStatus)
  | .operationType => Json.named? (α := OperationType)
  | .provider => Provider.read?
  | .transaction => Transaction.read?
  | .history => History.read?
  | .noticePayment => NoticePayment.read?
  | .paymentNotice => PaymentNotice.read?
  | .billStatus => Json.named? (α := BillStatus)
  | .billAmount => BillAmount.read?
  | .billStatusInfo => BillStatusInfo.read?
  | .customer => Customer.read?
  | .bill => Bill.read?
  | .billNotice => BillNotice.read?
  | .hookParameters => HookParameters.read?
  | .hook => Hook.read?
  | .hookKey => HookKey.read?
  | .fault => Fault.read?

/-- Writes data in a format. -/
def toJson : (format : WireFormat) → format.Data → Json
  | .money => Money.toJson
  | .transactionType => fun word : TransactionType => .ofNamed word
  | .transactionStatus => fun word : TransactionStatus => .ofNamed word
  | .operationType => fun word : OperationType => .ofNamed word
  | .provider => Provider.toJson
  | .transaction => Transaction.toJson
  | .history => History.toJson
  | .noticePayment => NoticePayment.toJson
  | .paymentNotice => PaymentNotice.toJson
  | .billStatus => fun word : BillStatus => .ofNamed word
  | .billAmount => BillAmount.toJson
  | .billStatusInfo => BillStatusInfo.toJson
  | .customer => Customer.toJson
  | .bill => Bill.toJson
  | .billNotice => BillNotice.toJson
  | .hookParameters => HookParameters.toJson
  | .hook => Hook.toJson
  | .hookKey => HookKey.toJson
  | .fault => Fault.toJson

/-- Reads a text as it stands. -/
def readText? (format : WireFormat) (text : List UInt8) : Option format.Data :=
  (Json.unread? text).bind format.read?

/-- Reads the value of a text. -/
def readValue? (format : WireFormat) (text : List UInt8) : Option format.Data :=
  (Json.parse? text).bind format.read?

end WireFormat

section Related

variable {δ ε : Type} [Document δ] [Document ε] {R : δ → ε → Prop} (hR : Simulates R)

include hR

theorem Money.follows :
    Follows R Money.read? Money.read? := by
  refine hR.record fun _ _ h => ?_
  refine (h.required? "amount" hR.number?).bind fun _ => ?_
  refine (h.required? "currency" hR.int64?).bind fun _ => ?_
  exact .refl _

theorem Provider.follows :
    Follows R Provider.read? Provider.read? := by
  refine hR.record fun _ _ h => ?_
  refine (h.optional? hR "id" hR.int64?).bind fun _ => ?_
  refine (h.optional? hR "shortName" hR.text?).bind fun _ => ?_
  refine (h.optional? hR "longName" hR.text?).bind fun _ => ?_
  refine (h.optional? hR "logoUrl" hR.text?).bind fun _ => ?_
  exact .refl _

theorem Transaction.follows :
    Follows R Transaction.read? Transaction.read? := by
  refine hR.record fun _ _ h => ?_
  refine (h.required? "txnId" hR.int64?).bind fun _ => ?_
  refine (h.optional? hR "personId" hR.int64?).bind fun _ => ?_
  refine (h.required? "date" hR.moment?).bind fun _ => ?_
  refine (h.optional? hR "errorCode" hR.int64?).bind fun _ => ?_
  refine (h.optional? hR "error" hR.text?).bind fun _ => ?_
  refine (h.required? "status" hR.named?).bind fun _ => ?_
  refine (h.required? "type" hR.named?).bind fun _ => ?_
  refine (h.optional? hR "statusText" hR.text?).bind fun _ => ?_
  refine (h.optional? hR "trmTxnId" hR.text?).bind fun _ => ?_
  refine (h.optional? hR "account" hR.text?).bind fun _ => ?_
  refine (h.required? "sum" (Money.follows hR)).bind fun _ => ?_
  refine (h.optional? hR "commission" (Money.follows hR)).bind fun _ => ?_
  refine (h.optional? hR "total" (Money.follows hR)).bind fun _ => ?_
  refine (h.optional? hR "provider" (Provider.follows hR)).bind fun _ => ?_
  refine (h.optional? hR "comment" hR.text?).bind fun _ => ?_
  refine (h.optional? hR "currencyRate" hR.double?).bind fun _ => ?_
  exact .refl _

theorem History.follows :
    Follows R History.read? History.read? := by
  refine hR.record fun _ _ h => ?_
  refine (h.required? "data" (hR.list? (Transaction.follows hR))).bind fun _ => ?_
  refine (h.optional? hR "nextTxnId" hR.int64?).bind fun _ => ?_
  refine (h.optional? hR "nextTxnDate" hR.moment?).bind fun _ => ?_
  exact .refl _

theorem NoticePayment.follows :
    Follows R NoticePayment.read? NoticePayment.read? := by
  refine hR.record fun _ _ h => ?_
  refine (h.required? "txnId" hR.text?).bind fun _ => ?_
  refine (h.required? "date" hR.moment?).bind fun _ => ?_
  refine (h.required? "type" hR.named?).bind fun _ => ?_
  refine (h.required? "status" hR.named?).bind fun _ => ?_
  refine (h.optional? hR "errorCode" hR.any?).bind fun _ => ?_
  refine (h.optional? hR "personId" hR.int64?).bind fun _ => ?_
  refine (h.required? "account" hR.text?).bind fun _ => ?_
  refine (h.optional? hR "comment" hR.text?).bind fun _ => ?_
  refine (h.optional? hR "provider" hR.any?).bind fun _ => ?_
  refine (h.required? "sum" (Money.follows hR)).bind fun _ => ?_
  refine (h.optional? hR "commission" (Money.follows hR)).bind fun _ => ?_
  refine (h.optional? hR "total" (Money.follows hR)).bind fun _ => ?_
  refine (h.optional? hR "signFields" hR.text?).bind fun _ => ?_
  exact .refl _

theorem PaymentNotice.follows :
    Follows R PaymentNotice.read? PaymentNotice.read? := by
  refine hR.record fun _ _ h => ?_
  refine (h.required? "messageId" hR.text?).bind fun _ => ?_
  refine (h.required? "hookId" hR.text?).bind fun _ => ?_
  refine (h.required? "payment" (NoticePayment.follows hR)).bind fun _ => ?_
  refine (h.required? "hash" hR.text?).bind fun _ => ?_
  refine (h.required? "version" hR.text?).bind fun _ => ?_
  refine (h.getD? "test" false hR.boolean?).bind fun _ => ?_
  exact .refl _

theorem BillAmount.follows :
    Follows R BillAmount.read? BillAmount.read? := by
  refine hR.record fun _ _ h => ?_
  refine (h.required? "value" hR.text?).bind fun _ => ?_
  refine (h.required? "currency" hR.text?).bind fun _ => ?_
  exact .refl _

theorem BillStatusInfo.follows :
    Follows R BillStatusInfo.read? BillStatusInfo.read? := by
  refine hR.record fun _ _ h => ?_
  refine (h.required? "value" hR.named?).bind fun _ => ?_
  refine (h.optional? hR "changedDateTime" hR.moment?).bind fun _ => ?_
  exact .refl _

theorem Customer.follows :
    Follows R Customer.read? Customer.read? := by
  refine hR.record fun _ _ h => ?_
  refine (h.optional? hR "phone" hR.text?).bind fun _ => ?_
  refine (h.optional? hR "email" hR.text?).bind fun _ => ?_
  refine (h.optional? hR "account" hR.text?).bind fun _ => ?_
  exact .refl _

theorem Bill.follows :
    Follows R Bill.read? Bill.read? := by
  refine hR.record fun _ _ h => ?_
  refine (h.required? "siteId" hR.text?).bind fun _ => ?_
  refine (h.required? "billId" hR.text?).bind fun _ => ?_
  refine (h.required? "amount" (BillAmount.follows hR)).bind fun _ => ?_
  refine (h.required? "status" (BillStatusInfo.follows hR)).bind fun _ => ?_
  refine (h.optional? hR "customer" (Customer.follows hR)).bind fun _ => ?_
  refine (h.optional? hR "customFields" hR.any?).bind fun _ => ?_
  refine (h.optional? hR "comment" hR.text?).bind fun _ => ?_
  refine (h.optional? hR "creationDateTime" hR.moment?).bind fun _ => ?_
  refine (h.optional? hR "expirationDateTime" hR.moment?).bind fun _ => ?_
  exact .refl _

theorem BillNotice.follows :
    Follows R BillNotice.read? BillNotice.read? := by
  refine hR.record fun _ _ h => ?_
  refine (h.required? "bill" (Bill.follows hR)).bind fun _ => ?_
  refine (h.required? "version" hR.text?).bind fun _ => ?_
  exact .refl _

theorem HookParameters.follows :
    Follows R HookParameters.read? HookParameters.read? := by
  refine hR.record fun _ _ h => ?_
  refine (h.required? "url" hR.text?).bind fun _ => ?_
  exact .refl _

theorem Hook.follows :
    Follows R Hook.read? Hook.read? := by
  refine hR.record fun _ _ h => ?_
  refine (h.required? "hookId" hR.text?).bind fun _ => ?_
  refine (h.required? "hookParameters" (HookParameters.follows hR)).bind fun _ => ?_
  refine (h.required? "hookType" hR.text?).bind fun _ => ?_
  refine (h.required? "txnType" hR.text?).bind fun _ => ?_
  exact .refl _

theorem HookKey.follows :
    Follows R HookKey.read? HookKey.read? := by
  refine hR.record fun _ _ h => ?_
  refine (h.required? "key" hR.text?).bind fun _ => ?_
  exact .refl _

theorem Fault.follows :
    Follows R Fault.read? Fault.read? := by
  refine hR.record fun _ _ h => ?_
  refine (h.optional? hR "serviceName" hR.text?).bind fun _ => ?_
  refine (h.required? "errorCode" hR.text?).bind fun _ => ?_
  refine (h.optional? hR "description" hR.text?).bind fun _ => ?_
  refine (h.optional? hR "userMessage" hR.text?).bind fun _ => ?_
  refine (h.optional? hR "dtStamp" hR.text?).bind fun _ => ?_
  refine (h.optional? hR "traceId" hR.text?).bind fun _ => ?_
  exact .refl _

/-- **A format is read alike** in related documents. -/
theorem WireFormat.follows (format : WireFormat) :
    Follows R (format.read? (δ := δ)) format.read? := by
  cases format with
  | money => exact Money.follows hR
  | transactionType => exact hR.named? (α := TransactionType)
  | transactionStatus => exact hR.named? (α := TransactionStatus)
  | operationType => exact hR.named? (α := OperationType)
  | provider => exact Provider.follows hR
  | transaction => exact Transaction.follows hR
  | history => exact History.follows hR
  | noticePayment => exact NoticePayment.follows hR
  | paymentNotice => exact PaymentNotice.follows hR
  | billStatus => exact hR.named? (α := BillStatus)
  | billAmount => exact BillAmount.follows hR
  | billStatusInfo => exact BillStatusInfo.follows hR
  | customer => exact Customer.follows hR
  | bill => exact Bill.follows hR
  | billNotice => exact BillNotice.follows hR
  | hookParameters => exact HookParameters.follows hR
  | hook => exact Hook.follows hR
  | hookKey => exact HookKey.follows hR
  | fault => exact Fault.follows hR

end Related

namespace WireFormat

variable {v : Json}

/-- What is found in a text that makes sense is found in its value. -/
theorem read?_of_text
    (format : WireFormat) {u : Unread} (hvalue : u.Stands v) {data : format.Data}
    (h : format.read? u = some data) :
    format.read? v = some data :=
  format.follows Unread.simulates_stands hvalue data h

/-- What is found in the value of a text that repeats no name is found in the text. -/
theorem read?_of_value
    (format : WireFormat) {u : Unread} (hvalue : u.Stands v) (hdistinct : u.tree.NamesDistinct)
    {data : format.Data} (h : format.read? v = some data) :
    format.read? u = some data :=
  format.follows Unread.simulates_distinct ⟨hvalue, hdistinct⟩ data h

end WireFormat

/-- No object of a text repeats a name. -/
def JsonText.RepeatsNoName (text : List UInt8) : Prop :=
  ∃ tree, JsonText.parse? text = some tree ∧ tree.NamesDistinct

/--
**Both ways to read a text agree.** If a text has a value, then what is read in the text is read in the
value as well, and what is read in the value is read in the text unless an object of the text repeats a
name.
-/
theorem WireFormat.paths_agree
    (format : WireFormat) {text : List UInt8} {v : Json} (hvalue : Json.parse? text = some v)
    (data : format.Data) :
    (format.readText? text = some data → format.readValue? text = some data) ∧
      (JsonText.RepeatsNoName text → format.readValue? text = some data →
        format.readText? text = some data) := by
  obtain ⟨tree, htree, hstands⟩ := Option.bind_eq_some_iff.mp hvalue
  change Unread.Stands ⟨JsonText.depthLimit, tree⟩ v at hstands
  have htext : format.readText? text = format.read? (⟨JsonText.depthLimit, tree⟩ : Unread) := by
    rw [readText?, Json.unread?, htree]
    rfl
  have hread : format.readValue? text = format.read? v := by
    rw [readValue?, hvalue]
    rfl
  rw [htext, hread]
  constructor
  · exact format.read?_of_text hstands
  · rintro ⟨tree', htree', hdistinct⟩
    obtain rfl : tree' = tree := Option.some.inj (htree'.symm.trans htree)
    exact format.read?_of_value hstands hdistinct

/-- The value of a key, with a member that no key has. -/
def keyValue : Json := .object [("created", .null), ("key", .string "a2V5")]

theorem parse?_keyValue :
    Json.parse? (Utf8.encode keyValue.compress) = some keyValue := by
  refine Json.Regular.parse?_compress ⟨?_, ?_⟩ ?_
  · simp [Json.Ascending]
  · simp [Json.Nested]
  · simp [keyValue, Json.doubles, Json.memberDoubles]

theorem repeatsNoName_keyValue :
    JsonText.RepeatsNoName (Utf8.encode keyValue.compress) := by
  refine ⟨_, JsonText.parse?_compress keyValue, .object ?_ ?_⟩
  · simp [Json.memberTrees, Json.text?_pieces]
  · simp [Json.memberTrees, Json.tree, JsonText.NamesDistinct.null, JsonText.NamesDistinct.string]

/-- The key is found in the value of its text, and so it is found in the text. -/
theorem paths_agree_on_key :
    Json.parse? (Utf8.encode keyValue.compress) = some keyValue ∧
      WireFormat.hookKey.readValue? (Utf8.encode keyValue.compress) = some ⟨"a2V5"⟩ ∧
      WireFormat.hookKey.readText? (Utf8.encode keyValue.compress) = some ⟨"a2V5"⟩ := by
  have hfound : WireFormat.hookKey.readValue? (Utf8.encode keyValue.compress) =
      some (⟨"a2V5"⟩ : HookKey) := by
    rw [WireFormat.readValue?, parse?_keyValue]
    rfl
  have hagree := WireFormat.paths_agree .hookKey parse?_keyValue (⟨"a2V5"⟩ : HookKey)
  exact ⟨parse?_keyValue, hfound, hagree.2 repeatsNoName_keyValue hfound⟩

end WalletEvents
