import WalletEvents.Calendar.Notation
import WalletEvents.Json.Reader

/-!
# Fields of the payment records

The kinds of field that the records of the wallet service share, beside the ones of every JSON
document: dates, and words from a fixed list.
-/

namespace WalletEvents

/-- A type whose values have a written name each. -/
class Named (α : Type) where
  /-- The written name. -/
  name : α → String
  /-- All values. -/
  all : List α

namespace Json

variable {δ : Type} [Document δ]

/-- A date with an offset. -/
def moment? (d : δ) : Option Moment := (text? d).bind Moment.read?

/-- A word from the list of a type. -/
def named? {α : Type} [Named α] (d : δ) : Option α :=
  choice? ((Named.all (α := α)).map fun a => (Named.name a, a)) d

/-- The date as a field. -/
def ofMoment (m : Moment) : Json := .string (m.text .letter)

/-- The word as a field. -/
def ofNamed {α : Type} [Named α] (a : α) : Json := .string (Named.name a)

end Json

end WalletEvents
