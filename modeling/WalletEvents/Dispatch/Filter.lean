import WalletEvents.Event

/-!
# Filters

A filter is a tree of conditions on events. It is evaluated from left to right, and a right branch is
left out when the left one has decided already.

Conditions may be anything that can be asked of an event, so the tree only names them and leaves the
asking to its user. `Condition` holds the ready ones.
-/

namespace WalletEvents

/-- A tree of conditions. -/
inductive Filter (α : Type) where
  | leaf (condition : α)
  | and (left right : Filter α)
  | or (left right : Filter α)
  | not (inner : Filter α)
  deriving DecidableEq

namespace Filter

variable {α : Type} {m : Type → Type} [Monad m]

/-- Evaluates the tree, asking for the conditions that matter from left to right. -/
def check (ask : α → m Bool) : Filter α → m Bool
  | .leaf a => ask a
  | .and left right => do
    if ← left.check ask then right.check ask else pure false
  | .or left right => do
    if ← left.check ask then pure true else right.check ask
  | .not inner => do
    return !(← inner.check ask)

/-- Evaluates filters up to the first that does not hold. -/
def checkAll (ask : α → m Bool) : List (Filter α) → m Bool
  | [] => pure true
  | filter :: rest => do
    if ← filter.check ask then checkAll ask rest else pure false

/-- The shape of the tree. -/
def shape : Filter α → String
  | .leaf _ => "Leaf"
  | .and left right => s!"And({left.shape}, {right.shape})"
  | .or left right => s!"Or({left.shape}, {right.shape})"
  | .not inner => s!"Not({inner.shape})"

end Filter

/-- The ready conditions on events. -/
inductive Condition where
  | transactionType (type : TransactionType)
  | amountAtLeast (minimum : Extended)
  | currency (code : Int64)
  | billStatus (status : BillStatus)
  | commentEquals (text : String)
  deriving DecidableEq

/-- Whether the condition holds of the event; it holds of no event that lacks what it asks for. -/
def Condition.holds (e : Event) : Condition → Bool
  | .transactionType type => e.transactionType == some type
  | .amountAtLeast minimum => e.amount.any (·.atLeast minimum)
  | .currency code => e.sum.any (·.currency == code)
  | .billStatus status => e.billStatus == some status
  | .commentEquals text => e.comment == some text

end WalletEvents
