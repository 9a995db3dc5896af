import WalletEvents.Payment.Field

/-!
# Sums of money

The amount of a wallet payment keeps the number it came with, since that number takes part in
signatures. The currency is a numeric code of ISO 4217.
-/

namespace WalletEvents

/-- An amount in a currency. -/
structure Money where
  amount : Json.Number
  currency : Int64
  deriving DecidableEq

namespace Money

/-- The amount as a double. -/
def value (m : Money) : Double := m.amount.toDouble

/-- Reads a sum of money. -/
def read? {δ : Type} [Json.Document δ] (d : δ) : Option Money := do
  let fields ← Json.fields? ["amount", "currency"] d
  some {
    amount := ← fields.required? "amount" Json.number?
    currency := ← fields.required? "currency" Json.int64? }

/-- The sum as a record. -/
def toJson (m : Money) : Json :=
  .record [
    ("amount", some (.number m.amount)),
    ("currency", some (.ofInt64 m.currency))]

end Money

end WalletEvents
