import WalletEvents.Proofs.Dispatch.Report

/-!
# What a walk along a chain comes to

A dispatcher that notes down its visits is the same dispatcher, whose registrations
put down what became of the event. These are notes of the steps of its walks
(`ChainStep.visits`), where a check that holds leaves no note, for the call of the
handler follows.

**Results.**

* `Dispatcher.fst_run_noting`: apart from the notes, a dispatcher that takes them
  processes an event like the dispatcher itself.
* `walk_yields`: the notes of a walk are the verdicts of a walk along the chain in
  the sense of `IsWalk`, and they decide how the walk ends.

Both are said of activities, so they hold whatever other activities do to the state
between two steps of a walk.
-/

namespace WalletEvents

/-- A registration that a walk has come to, by its chain and its place there, with the event. -/
structure Visit where
  chain : EventKind
  place : Nat
  event : Event
  verdict : Verdict

/-- The visits of a walk that has come as far as a place. -/
def visitsFrom (chain : EventKind) (e : Event) : Nat → List Verdict → List Visit
  | _, [] => []
  | place, v :: rest => ⟨chain, place, e, v⟩ :: visitsFrom chain e (place + 1) rest

/-- The visit that a step of a walk completes, if there is one. -/
def ChainStep.visits (chain : EventKind) : ChainStep → List Visit
  | .checked place e false => [⟨chain, place, e, .passedOver⟩]
  | .checked _ _ true => []
  | .called place e result => [⟨chain, place, e, .answered result⟩]

theorem flatMap_visits_stepsFrom
    (chain : EventKind) (e : Event) (place : Nat) (verdicts : List Verdict) :
    (stepsFrom e place verdicts).flatMap (ChainStep.visits chain) =
      visitsFrom chain e place verdicts := by
  induction verdicts generalizing place with
  | nil => rfl
  | cons v rest ih =>
      rw [stepsFrom, List.flatMap_append, ih, visitsFrom]
      cases v <;> rfl

section Noting

variable {m : Type → Type} [Monad m]

/-- Notes down a visit. -/
def Visit.note (v : Visit) : StateT (List Visit) m Unit := modify fun visits => visits ++ [v]

/-- The same registration, which notes down its visits. -/
def Registration.noting (r : Registration m) (chain : EventKind) (place : Nat) :
    Registration (StateT (List Visit) m) where
  filters := [.leaf fun e => do
    let holds ← StateT.lift (Filter.checkAll (fun ask => ask e) r.filters)
    if holds then return true
    Visit.note ⟨chain, place, e, .passedOver⟩
    return false]
  handler e := do
    let result ← StateT.lift (r.handler e)
    Visit.note ⟨chain, place, e, .answered result⟩
    return result

/-- The registrations from a place of a chain on. -/
def notingFrom (chain : EventKind) :
    Nat → List (Registration m) → List (Registration (StateT (List Visit) m))
  | _, [] => []
  | place, r :: rest => r.noting chain place :: notingFrom chain (place + 1) rest

def HandlerChain.noting (c : HandlerChain m) (chain : EventKind) :
    HandlerChain (StateT (List Visit) m) :=
  ⟨notingFrom chain 0 c.registrations, c.stopOnFirstMatch⟩

/-- The same dispatcher, which notes down the visits of all walks. -/
def Dispatcher.noting (d : Dispatcher m) : Dispatcher (StateT (List Visit) m) :=
  ⟨d.transactions.noting .transaction, d.bills.noting .bill, d.errors.noting .error⟩

theorem Dispatcher.chain_noting (d : Dispatcher m) (kind : EventKind) :
    d.noting.chain kind = (d.chain kind).noting kind := by
  cases kind <;> rfl

theorem notingFrom_eq_nil_iff {chain : EventKind} {place : Nat} {rs : List (Registration m)} :
    notingFrom chain place rs = [] ↔ rs = [] := by
  cases rs <;> simp [notingFrom]

/-- The two walks of a dispatcher that takes notes. -/
theorem Dispatcher.run_noting (d : Dispatcher m) (e : Event) (visits : List Visit) :
    (d.noting.processEvent e).run visits = (do
      let (first, visits) ← (((d.chain e.kind).noting e.kind).notify e).run visits
      match first with
      | .ok _ => pure (.ok (), visits)
      | .error fault =>
        if e.kind = .error ∨ d.errors.registrations = [] then
          pure (.error (.unhandled e.kind fault), visits)
        else do
          let (second, visits) ← ((d.errors.noting .error).notify (.fault fault e)).run visits
          match second with
          | .ok true => pure (.ok (), visits)
          | .ok false => pure (.error (.unhandled e.kind fault), visits)
          | .error again => pure (.error (.errorHandlerFailed e.kind again), visits)) := by
  have herrors : d.noting.errors.registrations = [] ↔ d.errors.registrations = [] :=
    notingFrom_eq_nil_iff
  rw [processEvent, d.chain_noting, StateT.run_bind]
  refine bind_congr fun first => ?_
  obtain ⟨first, after⟩ := first
  cases first with
  | ok handled => rfl
  | error fault =>
      simp only [herrors]
      split
      · rfl
      · rw [StateT.run_bind]
        refine bind_congr fun second => ?_
        obtain ⟨second, last⟩ := second
        rcases second with again | handled
        · rfl
        · cases handled <;> rfl

variable [LawfulMonad m]

/-- Visits are notes of the steps of a walk. -/
theorem notingFrom_eq (chain : EventKind) (place : Nat) (rs : List (Registration m)) :
    notingFrom chain place rs = markingFrom (ChainStep.visits chain) place rs := by
  induction rs generalizing place with
  | nil => rfl
  | cons r rest ih =>
      rw [notingFrom, ih, markingFrom, reportingFrom]
      congr 1
      have hfilters : ∀ e, (do
          let holds ← StateT.lift (Filter.checkAll (fun ask => ask e) r.filters)
          if holds then return true
          Visit.note ⟨chain, place, e, .passedOver⟩
          return false : StateT (List Visit) m Bool) = do
            let hold ← StateT.lift (Filter.checkAll (fun ask => ask e) r.filters)
            ChainStep.note (ChainStep.visits chain) (.checked place e hold)
            return hold := by
        intro e
        refine bind_congr fun hold => ?_
        cases hold with
        | false => rfl
        | true =>
            refine StateT.ext fun visits => ?_
            simp [ChainStep.note, ChainStep.visits]
      unfold Registration.noting Registration.reporting
      congr 1
      congr 2
      exact funext hfilters

theorem Dispatcher.noting_agrees (d : Dispatcher m) :
    d.noting.Agrees ForgetsTo d := by
  intro kind
  rw [d.chain_noting, HandlerChain.noting, notingFrom_eq]
  exact ⟨markingFrom_agrees _ 0 _, rfl⟩

/-- Apart from the notes, a dispatcher that takes them processes an event like the dispatcher itself. -/
theorem Dispatcher.fst_run_noting (d : Dispatcher m) (e : Event) (visits : List Visit) :
    Prod.fst <$> (d.noting.processEvent e).run visits = d.processEvent e :=
  processEvent_agrees isAgreement_forgetsTo d.noting_agrees e visits

end Noting

/-- The notes of a walk are verdicts in the order of the chain, and they decide how it ends. -/
theorem walk_yields {σ : Type}
    (chain : EventKind) (stop : Bool) (e : Event) (rs : List (Registration (Activity σ)))
    (place : Nat) (handled : Bool) (visits : List Visit) :
    ((walk stop e handled (notingFrom chain place rs)).run visits).Yields fun (result, after) =>
      ∃ verdicts, IsWalk stop rs.length verdicts ∧
        after = visits ++ visitsFrom chain e place verdicts ∧
        result = walkResult handled verdicts := by
  rw [notingFrom_eq]
  refine Activity.yields_mono (walk_marking_yields _ stop e rs place handled visits) ?_
  rintro ⟨result, after⟩ ⟨verdicts, hwalk, hafter, hresult⟩
  exact ⟨verdicts, hwalk, by rw [hafter, flatMap_visits_stepsFrom], hresult⟩

end WalletEvents
