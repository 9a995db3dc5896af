import WalletEvents.Proofs.Json.Restored
import WalletEvents.Proofs.Payment.Formats

/-!
# What is read can be written and is read again

Data in one of the formats of the wallet service are written as a record: a field
without data is left out, a word is written by its name, a date in full. Read again,
as a text or as a value, the record gives the same data.

**Conditions.** Doubles have to be read from their own digits, which not all of them
are. Apart from that there is only one kind of data that could not be written and
read again: the content of a field that may hold anything, if it were `null`, not
canonical or nested too deep. It is not when it was read (`NoticePayment.Kept`).

**Result.** `WireFormat.round_trip`.
-/

namespace WalletEvents

open Json (Bounded Document Fields Kept Restored Unread)
open Json (restored_record restored_number restored_int64 restored_text restored_boolean
  restored_double restored_moment restored_named restored_list restored_map restored_kept)

/-- The fields of a payment that may hold anything were kept as they had been read. -/
structure NoticePayment.Kept (depth : Nat) (p : NoticePayment) : Prop where
  errorCode : Json.Kept depth p.errorCode
  provider : Json.Kept depth p.provider

section Kept

variable {δ : Type} [Document δ] {Within : Nat → δ → Prop} (hbounded : Bounded Within)
  {depth : Nat} {d : δ} (hd : Within depth d)

include hbounded hd

theorem NoticePayment.kept
    {p : NoticePayment} (hread : NoticePayment.read? d = some p) :
    ∃ depth', depth = depth' + 1 ∧ p.Kept depth' := by
  obtain ⟨fields, hfields, hread⟩ := Option.bind_eq_some_iff.mp hread
  obtain ⟨txnId, -, hread⟩ := Option.bind_eq_some_iff.mp hread
  obtain ⟨date, -, hread⟩ := Option.bind_eq_some_iff.mp hread
  obtain ⟨type, -, hread⟩ := Option.bind_eq_some_iff.mp hread
  obtain ⟨status, -, hread⟩ := Option.bind_eq_some_iff.mp hread
  obtain ⟨errorCode, hcode, hread⟩ := Option.bind_eq_some_iff.mp hread
  obtain ⟨personId, -, hread⟩ := Option.bind_eq_some_iff.mp hread
  obtain ⟨account, -, hread⟩ := Option.bind_eq_some_iff.mp hread
  obtain ⟨comment, -, hread⟩ := Option.bind_eq_some_iff.mp hread
  obtain ⟨provider, hprovider, hread⟩ := Option.bind_eq_some_iff.mp hread
  obtain ⟨sum, -, hread⟩ := Option.bind_eq_some_iff.mp hread
  obtain ⟨commission, -, hread⟩ := Option.bind_eq_some_iff.mp hread
  obtain ⟨total, -, hread⟩ := Option.bind_eq_some_iff.mp hread
  obtain ⟨signFields, -, hread⟩ := Option.bind_eq_some_iff.mp hread
  obtain rfl := Option.some.inj hread
  obtain ⟨depth', rfl, hgiven⟩ := hbounded.within_of_lookup hd hfields
  exact ⟨depth', rfl, hbounded.kept_of_optional? hgiven hcode,
    hbounded.kept_of_optional? hgiven hprovider⟩

theorem PaymentNotice.kept
    {n : PaymentNotice} (hread : PaymentNotice.read? d = some n) :
    ∃ depth', depth = depth' + 2 ∧ n.payment.Kept depth' := by
  obtain ⟨fields, hfields, hread⟩ := Option.bind_eq_some_iff.mp hread
  obtain ⟨messageId, -, hread⟩ := Option.bind_eq_some_iff.mp hread
  obtain ⟨hookId, -, hread⟩ := Option.bind_eq_some_iff.mp hread
  obtain ⟨payment, hpayment, hread⟩ := Option.bind_eq_some_iff.mp hread
  obtain ⟨hash, -, hread⟩ := Option.bind_eq_some_iff.mp hread
  obtain ⟨version, -, hread⟩ := Option.bind_eq_some_iff.mp hread
  obtain ⟨test, -, hread⟩ := Option.bind_eq_some_iff.mp hread
  obtain rfl := Option.some.inj hread
  obtain ⟨depth', rfl, hgiven⟩ := hbounded.within_of_lookup hd hfields
  obtain ⟨e, hlookup, hread⟩ := Json.Fields.exists_of_required? hpayment
  obtain ⟨depth, rfl, hkept⟩ := NoticePayment.kept hbounded (hgiven _ e hlookup) hread
  exact ⟨depth, rfl, hkept⟩

theorem Bill.kept
    {b : Bill} (hread : Bill.read? d = some b) :
    ∃ depth', depth = depth' + 1 ∧ Kept depth' b.customFields := by
  obtain ⟨fields, hfields, hread⟩ := Option.bind_eq_some_iff.mp hread
  obtain ⟨siteId, -, hread⟩ := Option.bind_eq_some_iff.mp hread
  obtain ⟨billId, -, hread⟩ := Option.bind_eq_some_iff.mp hread
  obtain ⟨amount, -, hread⟩ := Option.bind_eq_some_iff.mp hread
  obtain ⟨status, -, hread⟩ := Option.bind_eq_some_iff.mp hread
  obtain ⟨customer, -, hread⟩ := Option.bind_eq_some_iff.mp hread
  obtain ⟨customFields, hcustom, hread⟩ := Option.bind_eq_some_iff.mp hread
  obtain ⟨comment, -, hread⟩ := Option.bind_eq_some_iff.mp hread
  obtain ⟨creation, -, hread⟩ := Option.bind_eq_some_iff.mp hread
  obtain ⟨expiration, -, hread⟩ := Option.bind_eq_some_iff.mp hread
  obtain rfl := Option.some.inj hread
  obtain ⟨depth', rfl, hgiven⟩ := hbounded.within_of_lookup hd hfields
  exact ⟨depth', rfl, hbounded.kept_of_optional? hgiven hcustom⟩

theorem BillNotice.kept
    {n : BillNotice} (hread : BillNotice.read? d = some n) :
    ∃ depth', depth = depth' + 2 ∧ Kept depth' n.bill.customFields := by
  obtain ⟨fields, hfields, hread⟩ := Option.bind_eq_some_iff.mp hread
  obtain ⟨bill, hbill, hread⟩ := Option.bind_eq_some_iff.mp hread
  obtain ⟨version, -, hread⟩ := Option.bind_eq_some_iff.mp hread
  obtain rfl := Option.some.inj hread
  obtain ⟨depth', rfl, hgiven⟩ := hbounded.within_of_lookup hd hfields
  obtain ⟨e, hlookup, hread⟩ := Json.Fields.exists_of_required? hbill
  obtain ⟨depth, rfl, hkept⟩ := Bill.kept hbounded (hgiven _ e hlookup) hread
  exact ⟨depth, rfl, hkept⟩

end Kept

theorem TransactionType.restored {depth : Nat} (t : TransactionType) :
    Restored depth Json.named? (.ofNamed t) t :=
  restored_named (by cases t <;> rfl)

theorem TransactionStatus.restored {depth : Nat} (s : TransactionStatus) :
    Restored depth Json.named? (.ofNamed s) s :=
  restored_named (by cases s <;> rfl)

theorem OperationType.restored {depth : Nat} (t : OperationType) :
    Restored depth Json.named? (.ofNamed t) t :=
  restored_named (by cases t <;> rfl)

theorem BillStatus.restored {depth : Nat} (s : BillStatus) :
    Restored depth Json.named? (.ofNamed s) s :=
  restored_named (by cases s <;> rfl)

theorem Money.restored {depth : Nat} (m : Money) :
    Restored (depth + 1) Money.read? m.toJson m := by
  refine restored_record rfl (by decide) fun _ => ?_
  refine .required (restored_number m.amount) ?_
  refine .required (restored_int64 m.currency) ?_
  exact .nil m

theorem Provider.restored {depth : Nat} (p : Provider) :
    Restored (depth + 1) Provider.read? p.toJson p := by
  refine restored_record rfl (by decide) fun _ => ?_
  refine .optional (restored_map restored_int64 p.id) ?_
  refine .optional (restored_map restored_text p.shortName) ?_
  refine .optional (restored_map restored_text p.longName) ?_
  refine .optional (restored_map restored_text p.logoUrl) ?_
  exact .nil p

theorem Transaction.restored {depth : Nat} (t : Transaction) :
    Restored (depth + 2) Transaction.read? t.toJson t := by
  refine restored_record rfl (by decide) fun _ => ?_
  refine .required (restored_int64 t.txnId) ?_
  refine .optional (restored_map restored_int64 t.personId) ?_
  refine .required (restored_moment t.date) ?_
  refine .optional (restored_map restored_int64 t.errorCode) ?_
  refine .optional (restored_map restored_text t.error) ?_
  refine .required (TransactionStatus.restored t.status) ?_
  refine .required (TransactionType.restored t.type) ?_
  refine .optional (restored_map restored_text t.statusText) ?_
  refine .optional (restored_map restored_text t.trmTxnId) ?_
  refine .optional (restored_map restored_text t.account) ?_
  refine .required (Money.restored t.sum) ?_
  refine .optional (restored_map Money.restored t.commission) ?_
  refine .optional (restored_map Money.restored t.total) ?_
  refine .optional (restored_map Provider.restored t.provider) ?_
  refine .optional (restored_map restored_text t.comment) ?_
  refine .optional (restored_map restored_double t.currencyRate) ?_
  exact .nil t

theorem History.restored {depth : Nat} (h : History) :
    Restored (depth + 4) History.read? h.toJson h := by
  refine restored_record rfl (by decide) fun _ => ?_
  refine .required (restored_list Transaction.restored h.data) ?_
  refine .optional (restored_map restored_int64 h.nextTxnId) ?_
  refine .optional (restored_map restored_moment h.nextTxnDate) ?_
  exact .nil h

theorem NoticePayment.restored {depth : Nat} {p : NoticePayment} (h : p.Kept (depth + 1)) :
    Restored (depth + 2) NoticePayment.read? p.toJson p := by
  refine restored_record rfl (by decide) fun _ => ?_
  refine .required (restored_text p.txnId) ?_
  refine .required (restored_moment p.date) ?_
  refine .required (TransactionType.restored p.type) ?_
  refine .required (TransactionStatus.restored p.status) ?_
  refine .optional (restored_kept h.errorCode) ?_
  refine .optional (restored_map restored_int64 p.personId) ?_
  refine .required (restored_text p.account) ?_
  refine .optional (restored_map restored_text p.comment) ?_
  refine .optional (restored_kept h.provider) ?_
  refine .required (Money.restored p.sum) ?_
  refine .optional (restored_map Money.restored p.commission) ?_
  refine .optional (restored_map Money.restored p.total) ?_
  refine .optional (restored_map restored_text p.signFields) ?_
  exact .nil p

theorem PaymentNotice.restored
    {depth : Nat} {n : PaymentNotice} (h : n.payment.Kept (depth + 1)) :
    Restored (depth + 3) PaymentNotice.read? n.toJson n := by
  refine restored_record rfl (by decide) fun _ => ?_
  refine .required (restored_text n.messageId) ?_
  refine .required (restored_text n.hookId) ?_
  refine .required (NoticePayment.restored h) ?_
  refine .required (restored_text n.hash) ?_
  refine .required (restored_text n.version) ?_
  refine .default false (restored_boolean n.test) ?_
  exact .nil n

theorem BillAmount.restored {depth : Nat} (a : BillAmount) :
    Restored (depth + 1) BillAmount.read? a.toJson a := by
  refine restored_record rfl (by decide) fun _ => ?_
  refine .required (restored_text a.value) ?_
  refine .required (restored_text a.currency) ?_
  exact .nil a

theorem BillStatusInfo.restored {depth : Nat} (s : BillStatusInfo) :
    Restored (depth + 1) BillStatusInfo.read? s.toJson s := by
  refine restored_record rfl (by decide) fun _ => ?_
  refine .required (BillStatus.restored s.value) ?_
  refine .optional (restored_map restored_moment s.changedDateTime) ?_
  exact .nil s

theorem Customer.restored {depth : Nat} (c : Customer) :
    Restored (depth + 1) Customer.read? c.toJson c := by
  refine restored_record rfl (by decide) fun _ => ?_
  refine .optional (restored_map restored_text c.phone) ?_
  refine .optional (restored_map restored_text c.email) ?_
  refine .optional (restored_map restored_text c.account) ?_
  exact .nil c

theorem Bill.restored {depth : Nat} {b : Bill} (h : Kept (depth + 1) b.customFields) :
    Restored (depth + 2) Bill.read? b.toJson b := by
  refine restored_record rfl (by decide) fun _ => ?_
  refine .required (restored_text b.siteId) ?_
  refine .required (restored_text b.billId) ?_
  refine .required (BillAmount.restored b.amount) ?_
  refine .required (BillStatusInfo.restored b.status) ?_
  refine .optional (restored_map Customer.restored b.customer) ?_
  refine .optional (restored_kept h) ?_
  refine .optional (restored_map restored_text b.comment) ?_
  refine .optional (restored_map restored_moment b.creationDateTime) ?_
  refine .optional (restored_map restored_moment b.expirationDateTime) ?_
  exact .nil b

theorem BillNotice.restored
    {depth : Nat} {n : BillNotice} (h : Kept (depth + 1) n.bill.customFields) :
    Restored (depth + 3) BillNotice.read? n.toJson n := by
  refine restored_record rfl (by decide) fun _ => ?_
  refine .required (Bill.restored h) ?_
  refine .required (restored_text n.version) ?_
  exact .nil n

theorem HookParameters.restored {depth : Nat} (p : HookParameters) :
    Restored (depth + 1) HookParameters.read? p.toJson p := by
  refine restored_record rfl (by decide) fun _ => ?_
  refine .required (restored_text p.url) ?_
  exact .nil p

theorem Hook.restored {depth : Nat} (h : Hook) :
    Restored (depth + 2) Hook.read? h.toJson h := by
  refine restored_record rfl (by decide) fun _ => ?_
  refine .required (restored_text h.hookId) ?_
  refine .required (HookParameters.restored h.hookParameters) ?_
  refine .required (restored_text h.hookType) ?_
  refine .required (restored_text h.txnType) ?_
  exact .nil h

theorem HookKey.restored {depth : Nat} (k : HookKey) :
    Restored (depth + 1) HookKey.read? k.toJson k := by
  refine restored_record rfl (by decide) fun _ => ?_
  refine .required (restored_text k.key) ?_
  exact .nil k

theorem Fault.restored {depth : Nat} (f : Fault) :
    Restored (depth + 1) Fault.read? f.toJson f := by
  refine restored_record rfl (by decide) fun _ => ?_
  refine .optional (restored_map restored_text f.serviceName) ?_
  refine .required (restored_text f.errorCode) ?_
  refine .optional (restored_map restored_text f.description) ?_
  refine .optional (restored_map restored_text f.userMessage) ?_
  refine .optional (restored_map restored_text f.dtStamp) ?_
  refine .optional (restored_map restored_text f.traceId) ?_
  exact .nil f

namespace WireFormat

/-- **What was read is restored** from its record. What stands in a field that may hold anything was
read with one level less for each record around it, and it is written at the same place. -/
theorem restored
    (format : WireFormat) {δ : Type} [Document δ] {Within : Nat → δ → Prop}
    (hbounded : Bounded Within) {d : δ} (hd : Within JsonText.depthLimit d) {data : format.Data}
    (hread : format.read? d = some data) :
    Restored JsonText.depthLimit format.read? (format.toJson data) data := by
  cases format with
  | money => exact Money.restored data
  | transactionType => exact TransactionType.restored data
  | transactionStatus => exact TransactionStatus.restored data
  | operationType => exact OperationType.restored data
  | provider => exact Provider.restored data
  | transaction => exact Transaction.restored data
  | history => exact History.restored data
  | noticePayment =>
      obtain ⟨depth, hdepth, hkept⟩ := NoticePayment.kept hbounded hd hread
      obtain rfl : depth = 126 := (Nat.add_right_cancel (m := 1) hdepth).symm
      exact NoticePayment.restored hkept
  | paymentNotice =>
      obtain ⟨depth, hdepth, hkept⟩ := PaymentNotice.kept hbounded hd hread
      obtain rfl : depth = 125 := (Nat.add_right_cancel (m := 2) hdepth).symm
      exact PaymentNotice.restored hkept
  | billStatus => exact BillStatus.restored data
  | billAmount => exact BillAmount.restored data
  | billStatusInfo => exact BillStatusInfo.restored data
  | customer => exact Customer.restored data
  | bill =>
      obtain ⟨depth, hdepth, hkept⟩ := Bill.kept hbounded hd hread
      obtain rfl : depth = 126 := (Nat.add_right_cancel (m := 1) hdepth).symm
      exact Bill.restored hkept
  | billNotice =>
      obtain ⟨depth, hdepth, hkept⟩ := BillNotice.kept hbounded hd hread
      obtain rfl : depth = 125 := (Nat.add_right_cancel (m := 2) hdepth).symm
      exact BillNotice.restored hkept
  | hookParameters => exact HookParameters.restored data
  | hook => exact Hook.restored data
  | hookKey => exact HookKey.restored data
  | fault => exact Fault.restored data

/-- The text that data are written as. -/
def write (format : WireFormat) (data : format.Data) : List UInt8 :=
  Utf8.encode (format.toJson data).compress

/-- What is restored from its record is read from its text, in both ways. -/
theorem read?_write
    (format : WireFormat) {data : format.Data}
    (h : Restored JsonText.depthLimit format.read? (format.toJson data) data)
    (hdoubles : ∀ d ∈ (format.toJson data).doubles, (Json.Number.double d).Rereads) :
    format.readText? (format.write data) = some data ∧
      format.readValue? (format.write data) = some data := by
  constructor
  · have hstands : Unread.Stands ⟨JsonText.depthLimit, (format.toJson data).tree⟩
        (format.toJson data).canonical := Json.value?_tree _ h.writable hdoubles
    rw [readText?, write, Json.unread?, JsonText.parse?_compress]
    exact format.read?_of_value hstands (Json.namesDistinct_tree _ h.writable) h.read_eq
  · rw [readValue?, write, h.writable.parse?_compress hdoubles]
    exact h.read_eq

/--
**Data that were read are written and read again.** Whether data came from a text as it stands or from
its value: if their doubles are read from their own digits, then the text that they are written as gives
the same data, read in either way.
-/
theorem round_trip
    (format : WireFormat) {text : List UInt8} {data : format.Data}
    (hread : format.readText? text = some data ∨ format.readValue? text = some data)
    (hdoubles : ∀ d ∈ (format.toJson data).doubles, (Json.Number.double d).Rereads) :
    format.readText? (format.write data) = some data ∧
      format.readValue? (format.write data) = some data := by
  rcases hread with hread | hread
  · obtain ⟨u, hu, hread⟩ := Option.bind_eq_some_iff.mp hread
    obtain ⟨tree, -, rfl⟩ := Option.map_eq_some_iff.mp hu
    exact format.read?_write (format.restored Json.bounded_unread rfl hread) hdoubles
  · obtain ⟨v, hv, hread⟩ := Option.bind_eq_some_iff.mp hread
    have hregular := Json.regular_of_parse? hv
    exact format.read?_write (format.restored Json.bounded_regular hregular hread) hdoubles

end WireFormat

/-- A payment in a leap second of a year of five digits. -/
def leapText : List UInt8 :=
  Utf8.encode ("\x7b\"date\": \"+12016-12-31 23:59:60.5Z\", \"txnId\": 7, \"status\": \"SUCCESS\", " ++
    "\"type\": \x7b\"IN\": null\x7d, \"comment\": null, \"sum\": [1.50, 643]\x7d")

/-- The double of one and a half. -/
def oneAndHalf : Double := ⟨false, 3 * 2 ^ 51, -52, by decide⟩

/-- The payment in that text. -/
def leapPayment : Transaction where
  txnId := 7
  personId := none
  date := ⟨⟨12016, 12, 31, by decide⟩, 86399, 1500000000, 0, by decide⟩
  errorCode := none
  error := none
  status := .success
  type := .incoming
  statusText := none
  trmTxnId := none
  account := none
  sum := ⟨.double oneAndHalf, 643⟩
  commission := none
  total := none
  provider := none
  comment := none
  currencyRate := none

theorem rereads_oneAndHalf :
    (Json.Number.double oneAndHalf).Rereads := by
  unfold Json.Number.Rereads
  decide +kernel

/-- The payment is written with all its fields by name, and read again. -/
theorem leapPayment_round_trip :
    WireFormat.transaction.readText? leapText = some leapPayment ∧
      (∀ d ∈ leapPayment.toJson.doubles, (Json.Number.double d).Rereads) ∧
      WireFormat.transaction.readText? (WireFormat.transaction.write leapPayment) =
        some leapPayment ∧
      WireFormat.transaction.readValue? (WireFormat.transaction.write leapPayment) =
        some leapPayment := by
  have hread : WireFormat.transaction.readText? leapText = some leapPayment := by
    change (Json.unread? leapText).bind Transaction.read? = some leapPayment
    decide +kernel
  have hdoubles : ∀ d ∈ leapPayment.toJson.doubles, (Json.Number.double d).Rereads := by
    have hone : leapPayment.toJson.doubles = [oneAndHalf] := by decide +kernel
    intro d hd
    rw [hone, List.mem_singleton] at hd
    rw [hd]
    exact rereads_oneAndHalf
  exact ⟨hread, hdoubles, WireFormat.transaction.round_trip (.inl hread) hdoubles⟩

end WalletEvents
