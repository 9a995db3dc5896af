import WalletEvents.Dispatch.Dispatcher
import WalletEvents.Rehearsal.Journal

/-!
# Scripted actions and handlers

A scripted action does one thing to what all parts share and ends in the way that the script says. A
scripted handler has a list of actions, one for each call; after the end of the list the last one is
repeated.
-/

namespace WalletEvents.Rehearsal

/-- A page of the service: payments or a refusal, given after a while. -/
structure Page where
  content : Except String (List Transaction)
  delay : Nat

/-- What a rehearsal keeps: for each handler the number of its calls, the pages to come, the last good
page, and the journal with its newest record first. -/
structure Stage where
  calls : List Nat
  pages : List Page
  lastGood : List Transaction
  journal : List Record

/-- A rehearsal together with what all parts share. -/
abbrev World := Shared Stage

/-- Writes an entry into the journal. -/
def World.write (t : Nat) (entry : Entry) (w : World) : World :=
  { w with world := { w.world with journal := ⟨t, entry⟩ :: w.world.journal } }

/-- Writes an entry into the journal at the present time. -/
def note (entry : Entry) : Activity World Unit := .modify fun t => World.write t entry

/-- A world with texts in its context and pages to come. -/
def World.new (texts : List (String × String)) (pages : List Page) : World where
  context := texts.foldl (fun c (name, text) => c.insert name ⟨.text, text⟩) Context.empty
  stopped := false
  world := ⟨[], pages, [], []⟩

/-- What a scripted part does when it is its turn. -/
inductive Action where
  | done
  | skip
  | cancel
  | crash
  | fail (message : String)
  | put (name text : String)
  | look (name : String)
  | lookForClient
  | lookAtNames
  | stop
  | ifTransaction (ids : List Int64) (yes no : Action)
  deriving Inhabited

namespace Action

/-- Does an action; the identifier is the one of the event that it is done for. -/
def perform (id : Option Int64) (w : World) : Action → (Option Finding × Outcome) × World
  | .done => ((none, .done), w)
  | .skip => ((none, .skipped), w)
  | .cancel => ((none, .cancelled), w)
  | .crash => ((none, .crashed), w)
  | .fail message => ((none, .failed message), w)
  | .put name text =>
    ((some (.replaced (w.context.contains name)), .done),
      { w with context := w.context.insert name ⟨.text, text⟩ })
  | .look name => ((some (.value (w.context.get? .text name)), .done), w)
  | .lookForClient =>
    ((some (.client (w.context.get? .client Context.clientName).isSome), .done), w)
  | .lookAtNames => ((some (.names w.context.shown), .done), w)
  | .stop => ((none, .done), w.stop)
  | .ifTransaction ids yes no =>
    if id.any ids.contains then yes.perform id w else no.perform id w

/-- Does an action now and writes the entry about it. -/
def act (action : Action) (id : Option Int64) (entry : Option Finding → Outcome → Entry) :
    Activity World Outcome :=
  .modifyGet fun t w =>
    let ((finding, outcome), w) := action.perform id w
    (outcome, w.write t (entry finding outcome))

/-- Does an action on a context of its own, which is empty, and writes the entry about it. -/
def actApart (action : Action) (entry : Option Finding → Outcome → Entry) : Activity World Outcome :=
  .modifyGet fun t w =>
    let ((finding, outcome), after) := action.perform none { w with context := .empty }
    (outcome, World.write t (entry finding outcome) { after with context := w.context })

end Action

namespace Outcome

/-- What a handler makes of its event. -/
def handlerResult : Outcome → Activity World HandlerResult
  | .done => pure .handled
  | .skipped => pure .skip
  | .cancelled => pure .cancel
  | .failed message => pure (.failed ⟨message⟩)
  | .crashed => .crash

/-- How a hook or a plugin ends. -/
def hookResult : Outcome → Activity World (Except String Unit)
  | .done => pure (.ok ())
  | .skipped => pure (.error (HandlerResult.skip.message?.getD ""))
  | .cancelled => pure (.error (HandlerResult.cancel.message?.getD ""))
  | .failed message => pure (.error message)
  | .crashed => .crash

end Outcome

/-- The name of an event in the journal. -/
def label : Event → String
  | .transaction t => s!"transaction:{t.txnId.toInt}"
  | .notice n => s!"webhook:{n.payment.txnId}"
  | .bill n => s!"bill:{n.bill.billId}"
  | .fault fault origin => s!"error({fault.message})<-{label origin}"

/-- A condition of a scripted filter: a ready one, or one that notes that it is asked. -/
inductive Probe where
  | condition (condition : Condition)
  | noted (name : String) (value : Bool)
  deriving DecidableEq

/-- Asks a condition about an event. -/
def Probe.ask (e : Event) : Probe → Activity World Bool
  | .condition c => pure (c.holds e)
  | .noted name value => do
    note (.condition name value)
    return value

/-- A handler with a script; its number tells it from all others. With a delay it notes that it starts and
waits before it acts. -/
structure Handler where
  number : Nat
  kind : EventKind
  name : String
  actions : List Action
  filters : List (Filter Probe)
  delay : Nat

/-- Counts a call of a handler, and gives the number of its calls before. -/
def countCall : Nat → List Nat → Nat × List Nat
  | 0, [] => (0, [1])
  | 0, n :: rest => (n, (n + 1) :: rest)
  | i + 1, [] => let (n, counts) := countCall i []; (n, 0 :: counts)
  | i + 1, m :: rest => let (n, counts) := countCall i rest; (n, m :: counts)

/-- The action of a call: the last one is repeated, and without any the call succeeds. -/
def actionAt (actions : List Action) (call : Nat) : Action :=
  (actions[call]?.or actions.getLast?).getD .done

namespace Handler

/-- Counts a call and gives its action. -/
def nextAction (h : Handler) : Activity World Action :=
  .modifyGet fun _ w =>
    let (before, calls) := countCall h.number w.world.calls
    (actionAt h.actions before, { w with world := { w.world with calls := calls } })

/-- Follows the script for an event. -/
def process (h : Handler) (e : Event) : Activity World HandlerResult := do
  let action ← h.nextAction
  if 0 < h.delay then
    note (.start h.name (label e))
    Activity.pause h.delay
  (← action.act e.transactionId (.call h.name (label e))).handlerResult

def filterOf : Filter Probe → Filter (Event → Activity World Bool)
  | .leaf probe => .leaf fun e => probe.ask e
  | .and left right => .and (filterOf left) (filterOf right)
  | .or left right => .or (filterOf left) (filterOf right)
  | .not inner => .not (filterOf inner)

def registration (h : Handler) : Registration (Activity World) := ⟨h.filters.map filterOf, h.process⟩

end Handler

/-- The dispatcher of scripted handlers; the chains of some kinds call every matching handler. -/
def dispatcherOf (handlers : List Handler) (matchAll : List EventKind) :
    Dispatcher (Activity World) :=
  let registered := handlers.foldl (fun d h => d.register h.kind h.registration) Dispatcher.empty
  matchAll.foldl (fun d kind => d.setStopOnFirstMatch kind false) registered

end WalletEvents.Rehearsal
