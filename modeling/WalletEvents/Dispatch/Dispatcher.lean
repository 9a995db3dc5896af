import WalletEvents.Dispatch.Filter
import WalletEvents.Activity.Gather

/-!
# Dispatching events

Handlers are registered in chains, one for each kind of event. An event walks along the chain of its
kind; a failure of a handler becomes an event of its own for the chain of the error handlers.

**A walk.** A handler is called when all its filters hold. It may have handled the event, which ends
the walk unless the chain is to call every matching handler; it may skip the event or cancel the
walk; and it may fail, which ends the walk with its fault.

**A batch.** The events of a batch are processed concurrently, each to its end whatever becomes of
the others. The result is the first failure in the order of the batch.
-/

namespace WalletEvents

/-- What a handler makes of an event. -/
inductive HandlerResult where
  | handled
  | skip
  | cancel
  | failed (fault : HandlerFault)
  deriving DecidableEq

namespace HandlerResult

/-- What a handler says when it did not handle the event. -/
def message? : HandlerResult → Option String
  | .handled => none
  | .skip => some "обработчик пропустил событие"
  | .cancel => some "обработка события отменена"
  | .failed fault => some fault.message

end HandlerResult

/-- The failure that is left when an event has been processed. -/
inductive DispatchError where
  | unhandled (kind : EventKind) (fault : HandlerFault)
  | errorHandlerFailed (kind : EventKind) (fault : HandlerFault)
  deriving DecidableEq

namespace DispatchError

/-- The kind of the event that was processed. -/
def kind : DispatchError → EventKind
  | .unhandled kind _ => kind
  | .errorHandlerFailed kind _ => kind

def message : DispatchError → String
  | .unhandled kind fault =>
    s!"необработанная ошибка в обработчике события {Named.name kind}: {fault.message}"
  | .errorHandlerFailed kind fault =>
    s!"обработчик ошибок упал на событии {Named.name kind}: {fault.message}"

end DispatchError

/-- A handler and the filters before it. -/
structure Registration (m : Type → Type) where
  filters : List (Filter (Event → m Bool))
  handler : Event → m HandlerResult

/-- The handlers of one kind of events, in the order of their registration. -/
structure HandlerChain (m : Type → Type) where
  registrations : List (Registration m)
  stopOnFirstMatch : Bool

/-- The chains of all kinds of events. -/
structure Dispatcher (m : Type → Type) where
  transactions : HandlerChain m
  bills : HandlerChain m
  errors : HandlerChain m

section

variable {m : Type → Type}

/-- The chain without handlers, which stops on the first match. -/
def HandlerChain.empty : HandlerChain m := ⟨[], true⟩

namespace Dispatcher

def empty : Dispatcher m := ⟨.empty, .empty, .empty⟩

def chain (d : Dispatcher m) : EventKind → HandlerChain m
  | .transaction => d.transactions
  | .bill => d.bills
  | .error => d.errors

/-- Changes the chain of a kind of events. -/
def modifyChain (d : Dispatcher m) (kind : EventKind) (f : HandlerChain m → HandlerChain m) :
    Dispatcher m :=
  match kind with
  | .transaction => { d with transactions := f d.transactions }
  | .bill => { d with bills := f d.bills }
  | .error => { d with errors := f d.errors }

/-- Adds a handler at the end of a chain. -/
def register (d : Dispatcher m) (kind : EventKind) (r : Registration m) : Dispatcher m :=
  d.modifyChain kind fun chain => { chain with registrations := chain.registrations ++ [r] }

/-- Sets whether the first handler that handles an event is the last one called. -/
def setStopOnFirstMatch (d : Dispatcher m) (kind : EventKind) (stop : Bool) : Dispatcher m :=
  d.modifyChain kind fun chain => { chain with stopOnFirstMatch := stop }

/-- The number of handlers of a kind of events. -/
def count (d : Dispatcher m) (kind : EventKind) : Nat := (d.chain kind).registrations.length

end Dispatcher

variable [Monad m]

/-- Walks along the rest of a chain; the result says whether some handler handled the event. -/
def walk (stop : Bool) (e : Event) (handled : Bool) :
    List (Registration m) → m (Except HandlerFault Bool)
  | [] => pure (.ok handled)
  | r :: rest => do
    if ← Filter.checkAll (fun ask => ask e) r.filters then
      match ← r.handler e with
      | .handled => if stop then pure (.ok true) else walk stop e true rest
      | .skip => walk stop e handled rest
      | .cancel => pure (.ok handled)
      | .failed fault => pure (.error fault)
    else walk stop e handled rest

/-- Walks along a chain. -/
def HandlerChain.notify (chain : HandlerChain m) (e : Event) : m (Except HandlerFault Bool) :=
  walk chain.stopOnFirstMatch e false chain.registrations

namespace Dispatcher

/-- Processes an event, and the failure of its handler, if there is one, as an event of its own. -/
def processEvent (d : Dispatcher m) (e : Event) : m (Except DispatchError Unit) := do
  match ← (d.chain e.kind).notify e with
  | .ok _ => pure (.ok ())
  | .error fault =>
    if e.kind = .error ∨ d.errors.registrations = [] then
      pure (.error (.unhandled e.kind fault))
    else
      match ← d.errors.notify (.fault fault e) with
      | .ok true => pure (.ok ())
      | .ok false => pure (.error (.unhandled e.kind fault))
      | .error second => pure (.error (.errorHandlerFailed e.kind second))

end Dispatcher

end

/-- The first failure in the order of the list. -/
def firstFailure {ε : Type} : List (Except ε Unit) → Except ε Unit
  | [] => .ok ()
  | .ok () :: rest => firstFailure rest
  | .error e :: _ => .error e

/-- Processes the events of a batch concurrently. -/
def Dispatcher.feedEvents {σ : Type} (d : Dispatcher (Activity σ)) (events : List Event) :
    Activity σ (Except DispatchError Unit) := do
  return firstFailure (← Activity.gather (events.map d.processEvent))

end WalletEvents
