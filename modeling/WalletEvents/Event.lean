import WalletEvents.Payment.Bill
import WalletEvents.Payment.Notice

/-!
# Events

What handlers are told of: a transaction found in the history, a notice of a wallet payment, a notice
of a bill, or a handler that failed on another event.

**One view of payments.** A transaction and a notice of the same payment are of one kind and answer
every question alike. The identifier of a notice counts when its text is a whole number of 64 bits.
-/

namespace WalletEvents

/-- The kinds of events; each has handlers of its own. -/
inductive EventKind where
  | transaction
  | bill
  | error
  deriving DecidableEq

instance : Named EventKind where
  name
    | .transaction => "transaction"
    | .bill => "bill"
    | .error => "error"
  all := [.transaction, .bill, .error]

/-- What a handler gives when it fails. -/
structure HandlerFault where
  message : String
  deriving DecidableEq

/-- Something that happened. -/
inductive Event where
  | transaction (transaction : Transaction)
  | notice (notice : PaymentNotice)
  | bill (notice : BillNotice)
  | fault (fault : HandlerFault) (origin : Event)

/-- A whole number of 64 bits with an optional sign. -/
def readInt64? (text : String) : Option Int64 :=
  let (negative, digits) :=
    match text.toList with
    | '-' :: rest => (true, rest)
    | '+' :: rest => (false, rest)
    | rest => (false, rest)
  if digits.isEmpty || !digits.all Char.isDigit then none
  else
    let magnitude := digitsValueUpTo (2 ^ 64) digits
    let i : Int := if negative then -(magnitude : Int) else magnitude
    if -2 ^ 63 ≤ i ∧ i < 2 ^ 63 then some (Int64.ofInt i) else none

namespace Event

def kind : Event → EventKind
  | .transaction _ => .transaction
  | .notice _ => .transaction
  | .bill _ => .bill
  | .fault _ _ => .error

/-- The identifier of the payment. -/
def transactionId : Event → Option Int64
  | .transaction t => some t.txnId
  | .notice n => readInt64? n.payment.txnId
  | _ => none

/-- The identifier of the bill. -/
def billId : Event → Option String
  | .bill n => some n.bill.billId
  | _ => none

/-- The sum of the payment. -/
def sum : Event → Option Money
  | .transaction t => some t.sum
  | .notice n => some n.payment.sum
  | _ => none

/-- The amount of the payment or of the bill. -/
def amount : Event → Option Extended
  | .bill n => Extended.read? n.bill.amount.value
  | e => e.sum.map fun sum => .finite sum.value

/-- The other side of the payment. -/
def account : Event → Option String
  | .transaction t => t.account
  | .notice n => some n.payment.account
  | _ => none

/-- The type of the payment. -/
def transactionType : Event → Option TransactionType
  | .transaction t => some t.type
  | .notice n => some n.payment.type
  | _ => none

def billStatus : Event → Option BillStatus
  | .bill n => some n.bill.status.value
  | _ => none

/-- The comment on the payment or the bill. -/
def comment : Event → Option String
  | .transaction t => t.comment
  | .notice n => n.payment.comment
  | .bill n => n.bill.comment
  | .fault _ _ => none

/-- When it happened; for a bill the last change of its status or else its creation. -/
def timestamp : Event → Option Moment
  | .transaction t => some t.date
  | .notice n => some n.payment.date
  | .bill n => n.bill.status.changedDateTime.or n.bill.creationDateTime
  | .fault _ origin => origin.timestamp

end Event

end WalletEvents
