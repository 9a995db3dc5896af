import WalletEvents.Duration
import WalletEvents.Service

/-!
# Configuration of polling

How often the history is asked for, what is asked for, and whether the payments found first count as
known. Every field may be left out.
-/

namespace WalletEvents

/-- How to poll the history. -/
structure PollingConfig where
  refetchTimeout : Duration
  backoffTimeout : Duration
  rows : Nat
  operation : OperationType
  skipUpdates : Bool
  updatesFrom : Option Instant
  deriving DecidableEq

namespace PollingConfig

/-- Every five seconds a whole page of everything, and forty seconds of pause after a failure. -/
def usual : PollingConfig where
  refetchTimeout := .ofSeconds 5
  backoffTimeout := .ofSeconds 40
  rows := HistoryQuery.maxRows
  operation := .all
  skipUpdates := false
  updatesFrom := none

/-- The number of rows that is asked for. -/
def pageRows (c : PollingConfig) : Nat := HistoryQuery.clampRows c.rows

def read? {δ : Type} [Json.Document δ] (d : δ) : Option PollingConfig := do
  let fields ← Json.fields? ["refetch_timeout", "backoff_timeout", "rows", "operation",
    "skip_updates", "get_updates_from"] d
  some {
    refetchTimeout := ← fields.getD? "refetch_timeout" usual.refetchTimeout Duration.read?
    backoffTimeout := ← fields.getD? "backoff_timeout" usual.backoffTimeout Duration.read?
    rows := ← fields.getD? "rows" usual.rows (Json.natural? (2 ^ 32 - 1))
    operation := ← fields.getD? "operation" usual.operation Json.named?
    skipUpdates := ← fields.getD? "skip_updates" usual.skipUpdates Json.boolean?
    updatesFrom := ← fields.getD? "get_updates_from" none
      (Json.nullable? fun d => (Json.moment? d).map Moment.instant) }

end PollingConfig

end WalletEvents
