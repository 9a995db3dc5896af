import WalletEvents.Failure
import WalletEvents.Payment.Transaction
import WalletEvents.Url.Basic

/-!
# The payment service

What the dispatcher needs from a wallet service: its history of payments, and the keys by which its
notices are signed.
-/

namespace WalletEvents

/-- What to look for in the history. -/
structure HistoryQuery where
  rows : Nat
  operation : OperationType
  sources : List String
  startDate : Option Instant
  endDate : Option Instant
  deriving DecidableEq

namespace HistoryQuery

/-- The most rows on a page of the history. -/
def maxRows : Nat := 50

/-- A number of rows that a page can have. -/
def clampRows (rows : Nat) : Nat := max 1 (min rows maxRows)

/-- Asks for a whole page of everything. -/
def usual : HistoryQuery := ⟨maxRows, .all, [], none, none⟩

end HistoryQuery

/-- A service that gives its history, newest payments first. -/
structure PaymentService (m : Type → Type) where
  history : HistoryQuery → m (Except Failure (List Transaction))
  /-- Registers an address for notices and gives the key of its hook. -/
  hookKey : Url → m (Except Failure String)
  /-- The secret by which notices of bills are signed. -/
  billSecret : Option String
  close : m (Except Failure Unit)

/-- A service that gives only its history and has nothing to close. -/
def PaymentService.ofHistory {m : Type → Type} [Monad m]
    (history : HistoryQuery → m (Except Failure (List Transaction))) : PaymentService m where
  history := history
  hookKey url := pure (.error (.configuration (.keysUnsupported url.text)))
  billSecret := none
  close := pure (.ok ())

end WalletEvents
