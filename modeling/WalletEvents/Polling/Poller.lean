import WalletEvents.Dispatch.Dispatcher
import WalletEvents.Polling.Config

/-!
# Polling the history

The history only gives pages of the newest payments, so events are found by comparison: the poller
keeps the greatest identifier that has been dealt with, its watermark, and takes the payments of a
page that lie above it for new.

**The first page** holds old payments. Only its first payment counts as new, or none at all if the
configuration says so. When the first page was empty every later payment is new. The threshold for the first
payment is the identifier before its own; where there is none, the poller breaks off.

**A full page** may have left out older payments, so from then on payments are asked for from the
oldest date of that page on.

**A failure** of the dispatcher leaves the watermark where it was, so that the payments of the page
are taken for new again.
-/

namespace WalletEvents

/-- What a poller remembers between its ticks. -/
structure PollState where
  watermark : Option Int64
  /-- Whether a page has come already. -/
  initialized : Bool
  updatesFrom : Option Instant
  deriving DecidableEq

/-- What happened in a tick. -/
structure TickReport where
  fetched : Nat
  dispatched : Nat
  skipped : Nat
  saturated : Bool
  deriving DecidableEq

/-- What a page asks the poller to do. -/
structure TickPlan where
  /-- What to remember if the batch fails. -/
  onFailure : PollState
  /-- The new payments. -/
  batch : List Transaction
  /-- What to remember when the batch is done. -/
  onSuccess : PollState
  report : TickReport

namespace PollState

/-- The state before the first tick. -/
def start (config : PollingConfig) : PollState := ⟨none, false, config.updatesFrom⟩

end PollState

namespace Poller

/-- What the next tick asks for. -/
def query (config : PollingConfig) (now : Instant) (s : PollState) : HistoryQuery where
  rows := config.pageRows
  operation := config.operation
  sources := []
  startDate := s.updatesFrom
  endDate := s.updatesFrom.map fun _ => now

/-- The greatest identifier on a page that begins with this one. -/
def greatestId (first : Int64) (rest : List Transaction) : Int64 :=
  rest.foldl (fun most t => max most t.txnId) first

/-- The earlier one of two instants. -/
def earlier (a b : Instant) : Instant := if b.lt a then b else a

/-- The oldest date on a page that begins with this one. -/
def oldestDate (first : Instant) (rest : List Transaction) : Instant :=
  rest.foldl (fun least t => earlier least t.date.instant) first

/-- The payments above a threshold in the order of their identifiers. -/
def fresh (threshold : Int64) (page : List Transaction) : List Transaction :=
  (page.filter fun t => threshold < t.txnId).mergeSort fun a b => a.txnId ≤ b.txnId

/-- The plan for the payments above a threshold. -/
def planAbove (threshold greatest : Int64) (page : List Transaction) (s : PollState)
    (saturated : Bool) : TickPlan where
  onFailure := s
  batch := fresh threshold page
  onSuccess := { s with watermark := some (max threshold greatest) }
  report := ⟨page.length, (fresh threshold page).length, 0, saturated⟩

/-- The plan for a page; there is none for a first page whose first identifier is the least of all. -/
def plan? (config : PollingConfig) (s : PollState) (page : List Transaction) : Option TickPlan :=
  match page with
  | [] =>
    let seen := { s with initialized := true }
    some ⟨seen, [], seen, ⟨0, 0, 0, false⟩⟩
  | first :: rest =>
    let greatest := greatestId first.txnId rest
    let saturated := decide (config.pageRows ≤ page.length)
    let updatesFrom :=
      if saturated then some (oldestDate first.date.instant rest) else s.updatesFrom
    let seen : PollState := ⟨s.watermark, true, updatesFrom⟩
    match s.watermark with
    | some watermark => some (planAbove watermark greatest page seen saturated)
    | none =>
      if s.initialized then some (planAbove Int64.minValue greatest page seen saturated)
      else if config.skipUpdates then
        let skipping := { seen with watermark := some greatest }
        some ⟨skipping, [], skipping, ⟨page.length, 0, page.length, saturated⟩⟩
      else if first.txnId = Int64.minValue then none
      else
        let seed := first.txnId - 1
        some (planAbove seed greatest page { seen with watermark := some seed } saturated)

/-- What is remembered when the batch of a plan is done or has failed. -/
def settle (plan : TickPlan) : Except DispatchError Unit → Except Failure TickReport × PollState
  | .ok () => (.ok plan.report, plan.onSuccess)
  | .error e => (.error (.dispatch e), plan.onFailure)

end Poller

/-- The surroundings of a poller. -/
structure Poller (σ : Type) where
  config : PollingConfig
  service : PaymentService (Activity σ)
  dispatcher : Dispatcher (Activity σ)
  /-- What the clock shows at a time of the activity. -/
  clock : Nat → Instant

namespace Poller

variable {σ : Type}

/-- The time that the clock shows. -/
def now (p : Poller σ) : Activity σ Instant := .modifyGet fun t s => (p.clock t, s)

/-- Asks for the history and has the new payments processed, by the given activities. -/
def tickWith (config : PollingConfig) (now : Activity σ Instant)
    (history : HistoryQuery → Activity σ (Except Failure (List Transaction)))
    (feed : List Event → Activity σ (Except DispatchError Unit)) (s : PollState) :
    Activity σ (Except Failure TickReport × PollState) := do
  match ← history (query config (← now) s) with
  | .error failure => return (.error failure, s)
  | .ok page =>
    match plan? config s page with
    | none => .crash
    | some plan => return settle plan (← feed (plan.batch.map .transaction))

/-- Asks for the history and has the new payments processed. -/
def tick (p : Poller σ) (s : PollState) : Activity σ (Except Failure TickReport × PollState) :=
  tickWith p.config p.now p.service.history p.dispatcher.feedEvents s

end Poller

end WalletEvents
