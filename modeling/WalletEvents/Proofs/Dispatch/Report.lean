import WalletEvents.Proofs.Activity.Steps
import WalletEvents.Proofs.Dispatch.Agreement

/-!
# Walks that report their steps

A walk along a chain of handlers comes to the registrations one after another. At each of
them it finds out whether all filters hold of the event, and if so it calls the handler.
So each of them passes its event over or answers it, which is its verdict. A registration
that reports does the same as another one and reports both steps.

**Results.** They are about notes that are taken of the steps, whatever is noted down
(`ChainStep.note`).

* `fst_run_walk_marking`: apart from the notes, a walk that takes them is the walk itself.
* `walk_marking_yields`: the notes of a walk are those of a list of verdicts in the sense
  of `IsWalk`, and the verdicts decide how the walk ends.

The second one is said of activities, so it holds whatever other activities do to the
state between two steps of a walk.
-/

namespace WalletEvents

/-- What became of an event at a registration. -/
inductive Verdict where
  | passedOver
  | answered (result : HandlerResult)
  deriving DecidableEq

/-- What a walk does at a place of a chain: it finds out whether all filters hold of the event, or has
the handler called with it. -/
inductive ChainStep where
  | checked (place : Nat) (event : Event) (hold : Bool)
  | called (place : Nat) (event : Event) (result : HandlerResult)

namespace Verdict

/-- Whether a walk goes on to the next registration. -/
def goesOn (stop : Bool) : Verdict → Bool
  | .passedOver => true
  | .answered .handled => !stop
  | .answered .skip => true
  | .answered .cancel => false
  | .answered (.failed _) => false

/-- The steps that lead to a verdict at a place. -/
def steps (e : Event) (place : Nat) : Verdict → List ChainStep
  | .passedOver => [.checked place e false]
  | .answered result => [.checked place e true, .called place e result]

end Verdict

/-- The verdicts of one walk along so many registrations: it comes to each of them at most once and in
their order, and it ends early only where it does not go on. -/
inductive IsWalk (stop : Bool) : Nat → List Verdict → Prop
  | finished : IsWalk stop 0 []
  | ended
      {n : Nat} {v : Verdict} (hlast : v.goesOn stop = false) :
      IsWalk stop (n + 1) [v]
  | next
      {n : Nat} {v : Verdict} {rest : List Verdict}
      (hnext : v.goesOn stop = true) (hrest : IsWalk stop n rest) :
      IsWalk stop (n + 1) (v :: rest)

/-- A handler has failed with this fault. -/
def HasFailed (verdicts : List Verdict) (fault : HandlerFault) : Prop :=
  .answered (.failed fault) ∈ verdicts

/-- A handler has handled the event. -/
def HasHandled (verdicts : List Verdict) : Prop := .answered .handled ∈ verdicts

/-- The steps of a walk that has come as far as a place. -/
def stepsFrom (e : Event) : Nat → List Verdict → List ChainStep
  | _, [] => []
  | place, v :: rest => v.steps e place ++ stepsFrom e (place + 1) rest

/-- How a walk ends. -/
def walkResult (handled : Bool) : List Verdict → Except HandlerFault Bool
  | [] => .ok handled
  | .answered (.failed fault) :: _ => .error fault
  | .answered .handled :: rest => walkResult true rest
  | _ :: rest => walkResult handled rest

/-- A walk ends with a fault exactly if a handler has failed with it, and else it tells whether the event
was handled. -/
theorem IsWalk.result_cases
    {stop : Bool} {n : Nat} {verdicts : List Verdict} (h : IsWalk stop n verdicts)
    (handled : Bool) :
    (∃ fault, walkResult handled verdicts = .error fault ∧
      ∀ other, HasFailed verdicts other ↔ other = fault) ∨
    ∃ did, walkResult handled verdicts = .ok did ∧
      (did = true ↔ handled = true ∨ HasHandled verdicts) ∧
      ∀ fault, ¬ HasFailed verdicts fault := by
  induction h generalizing handled with
  | finished => exact Or.inr ⟨handled, rfl, by simp [HasHandled], by simp [HasFailed]⟩
  | @ended n v hlast =>
      cases v with
      | passedOver => cases hlast
      | answered result =>
          cases result with
          | handled => exact Or.inr ⟨true, rfl, by simp [HasHandled], by simp [HasFailed]⟩
          | skip => cases hlast
          | cancel => exact Or.inr ⟨handled, rfl, by simp [HasHandled], by simp [HasFailed]⟩
          | failed fault => exact Or.inl ⟨fault, rfl, by simp [HasFailed]⟩
  | @next n v rest hnext hrest ih =>
      cases v with
      | passedOver => simpa [walkResult, HasFailed, HasHandled] using ih handled
      | answered result =>
          cases result with
          | handled => simpa [walkResult, HasFailed, HasHandled] using ih true
          | skip => simpa [walkResult, HasFailed, HasHandled] using ih handled
          | cancel => cases hnext
          | failed fault => cases hnext

section Reporting

variable {m n : Type → Type} [Monad m] [Monad n]
variable (lift : ∀ α, m α → n α) (report : ChainStep → n Unit)

/-- The same registration in another monad, which reports its steps. -/
def Registration.reporting (place : Nat) (r : Registration m) : Registration n where
  filters := [.leaf fun e => do
    let hold ← lift _ (Filter.checkAll (fun ask => ask e) r.filters)
    report (.checked place e hold)
    return hold]
  handler e := do
    let result ← lift _ (r.handler e)
    report (.called place e result)
    return result

/-- The registrations from a place of a chain on. -/
def reportingFrom : Nat → List (Registration m) → List (Registration n)
  | _, [] => []
  | place, r :: rest => r.reporting lift report place :: reportingFrom (place + 1) rest

/-- The same chain in another monad, which reports its steps. -/
def HandlerChain.reporting (c : HandlerChain m) : HandlerChain n :=
  ⟨reportingFrom lift report 0 c.registrations, c.stopOnFirstMatch⟩

/-- The same dispatcher in another monad, which reports the steps of all walks. -/
def Dispatcher.reporting (d : Dispatcher m) : Dispatcher n :=
  ⟨d.transactions.reporting lift report, d.bills.reporting lift report,
    d.errors.reporting lift report⟩

theorem Dispatcher.chain_reporting (d : Dispatcher m) (kind : EventKind) :
    (d.reporting lift report).chain kind = (d.chain kind).reporting lift report := by
  cases kind <;> rfl

/-- A walk that reports its steps comes to a registration. -/
theorem walk_reporting
    [LawfulMonad n] (place : Nat) (stop handled : Bool) (e : Event) (r : Registration m)
    (rest : List (Registration n)) :
    walk stop e handled (r.reporting lift report place :: rest) = (do
      let hold ← lift _ (Filter.checkAll (fun ask => ask e) r.filters)
      report (.checked place e hold)
      if hold then
        let result ← lift _ (r.handler e)
        report (.called place e result)
        match result with
        | .handled => if stop then pure (.ok true) else walk stop e true rest
        | .skip => walk stop e handled rest
        | .cancel => pure (.ok handled)
        | .failed fault => pure (.error fault)
      else walk stop e handled rest) := by
  simp only [walk, Registration.reporting, Filter.checkAll, Filter.check, bind_assoc, pure_bind]
  refine bind_congr fun hold => bind_congr fun _ => ?_
  cases hold with
  | false => simp
  | true =>
      refine (pure_bind true _).trans (bind_congr fun result => bind_congr fun _ => ?_)
      cases result <;> rfl

end Reporting

section Agreement

variable {m m' n n' : Type → Type} [Monad m] [Monad m'] [Monad n] [Monad n']
variable {lift : ∀ α, m α → n α} {report : ChainStep → n Unit}
variable {lift' : ∀ α, m' α → n' α} {report' : ChainStep → n' Unit}

/-- Dispatchers that agree do so while they report, if the reports agree as well. -/
theorem Dispatcher.reporting_agrees
    {R : ∀ α, m α → m' α → Prop} {R' : ∀ α, n α → n' α → Prop} (hR : IsAgreement R')
    (hlift : ∀ α p q, R α p q → R' α (lift α p) (lift' α q))
    (hreport : ∀ step, R' Unit (report step) (report' step))
    {d : Dispatcher m} {o : Dispatcher m'} (h : d.Agrees R o) :
    (d.reporting lift report).Agrees R' (o.reporting lift' report') := by
  have hchain : ∀ {rs : List (Registration m)} {os : List (Registration m')} (place : Nat),
      List.Forall₂ (Registration.Agrees R) rs os → List.Forall₂ (Registration.Agrees R')
        (reportingFrom lift report place rs) (reportingFrom lift' report' place os) := by
    intro rs os place hrs
    induction hrs generalizing place with
    | nil => exact .nil
    | cons hfirst _ ih =>
        refine .cons ⟨fun e => ?_, fun e => ?_⟩ (ih (place + 1))
        · refine hR.bind (hR.bind (hlift _ _ _ (hfirst.filters e)) fun hold => ?_) fun hold => ?_
          · exact hR.bind (hreport _) fun _ => hR.pure _
          · cases hold with
            | false => exact hR.pure _
            | true => exact hR.pure _
        · refine hR.bind (hlift _ _ _ (hfirst.handler e)) fun result => ?_
          exact hR.bind (hreport _) fun _ => hR.pure _
  intro kind
  rw [d.chain_reporting, o.chain_reporting]
  exact ⟨hchain 0 (h kind).registrations, (h kind).stopOnFirstMatch⟩

/-- A registration that reports agrees with the same one, if its reports count for nothing. -/
theorem reportingFrom_agrees
    [LawfulMonad m] [LawfulMonad n] {R : ∀ α, n α → m α → Prop} (hR : IsAgreement R)
    (hlift : ∀ α p, R α (lift α p) p) (hreport : ∀ step, R Unit (report step) (pure ()))
    (place : Nat) (rs : List (Registration m)) :
    List.Forall₂ (Registration.Agrees R) (reportingFrom lift report place rs) rs := by
  induction rs generalizing place with
  | nil => exact .nil
  | cons r rest ih =>
      have hreported : ∀ {α : Type} (p : m α) (step : α → ChainStep),
          R α (lift α p >>= fun a => report (step a) >>= fun _ => pure a) p := by
        intro α p step
        have h := hR.bind (hlift α p) fun a => hR.bind (hreport (step a)) fun _ => hR.pure a
        simpa using h
      have hpure : ∀ hold : Bool, (if hold = true then pure true else pure false : n Bool) =
          pure hold := by
        intro hold
        cases hold <;> rfl
      refine .cons ⟨fun e => ?_, fun e => hreported _ _⟩ (ih (place + 1))
      simpa [Registration.reporting, Filter.checkAll, Filter.check, hpure] using
        hreported (Filter.checkAll (fun ask => ask e) r.filters) fun hold => .checked place e hold

end Agreement

section Marking

variable {m : Type → Type} [Monad m] {ε : Type}

/-- Notes down a step. -/
def ChainStep.note (marks : ChainStep → List ε) (step : ChainStep) : StateT (List ε) m Unit :=
  modify fun notes => notes ++ marks step

/-- The registrations from a place of a chain on, which note down their steps. -/
def markingFrom (marks : ChainStep → List ε) :
    Nat → List (Registration m) → List (Registration (StateT (List ε) m)) :=
  reportingFrom (fun _ => StateT.lift) (ChainStep.note marks)

/-- The same chain, which notes down its steps. -/
def HandlerChain.stepping (c : HandlerChain m) : HandlerChain (StateT (List ChainStep) m) :=
  c.reporting (fun _ => StateT.lift) (ChainStep.note fun step => [step])

/-- The same dispatcher, which notes down the steps of all walks. -/
def Dispatcher.stepping (d : Dispatcher m) : Dispatcher (StateT (List ChainStep) m) :=
  d.reporting (fun _ => StateT.lift) (ChainStep.note fun step => [step])

variable [LawfulMonad m]

/-- A walk that notes down its steps comes to a registration. -/
theorem run_walk_marking
    (marks : ChainStep → List ε) (place : Nat) (stop handled : Bool) (e : Event)
    (r : Registration m) (rest : List (Registration m)) (notes : List ε) :
    (walk stop e handled (markingFrom marks place (r :: rest))).run notes = (do
      if ← Filter.checkAll (fun ask => ask e) r.filters then
        let result ← r.handler e
        let after := notes ++ marks (.checked place e true) ++ marks (.called place e result)
        let later := markingFrom marks (place + 1) rest
        match result with
        | .handled => if stop then pure (.ok true, after) else (walk stop e true later).run after
        | .skip => (walk stop e handled later).run after
        | .cancel => pure (.ok handled, after)
        | .failed fault => pure (.error fault, after)
      else
        (walk stop e handled (markingFrom marks (place + 1) rest)).run
          (notes ++ marks (.checked place e false))) := by
  have hlift : ∀ {α : Type} (p : m α) (w : List ε),
      (StateT.lift p : StateT (List ε) m α).run w = p >>= fun a => pure (a, w) := fun _ _ => rfl
  rw [markingFrom, reportingFrom, walk_reporting]
  simp only [StateT.run_bind, hlift, bind_assoc, pure_bind, ChainStep.note, StateT.run_modify]
  refine bind_congr fun hold => ?_
  cases hold with
  | false => simp
  | true =>
      simp only [if_true, StateT.run_bind, hlift, bind_assoc, pure_bind, StateT.run_modify]
      refine bind_congr fun result => ?_
      cases result with
      | handled => cases stop <;> simp
      | skip => simp
      | cancel => simp
      | failed fault => simp

/-- One computation is the other one, apart from the notes that it takes. -/
def ForgetsTo (α : Type) (p : StateT (List ε) m α) (q : m α) : Prop :=
  ∀ notes, Prod.fst <$> p.run notes = q

theorem isAgreement_forgetsTo :
    IsAgreement fun α (p : StateT (List ε) m α) (q : m α) => ForgetsTo α p q where
  pure a notes := by simp
  bind hfirst hrest notes := by
    rw [← hfirst notes, StateT.run_bind, map_bind, bind_map_left]
    exact bind_congr fun x => hrest x.1 x.2

theorem markingFrom_agrees (marks : ChainStep → List ε) (place : Nat) (rs : List (Registration m)) :
    List.Forall₂ (Registration.Agrees ForgetsTo) (markingFrom marks place rs) rs := by
  refine reportingFrom_agrees isAgreement_forgetsTo (fun α p notes => ?_) (fun step notes => ?_) _ _
  · simp
  · simp [ChainStep.note]

theorem Dispatcher.stepping_agrees (d : Dispatcher m) :
    d.stepping.Agrees ForgetsTo d := by
  intro kind
  rw [stepping, d.chain_reporting]
  exact ⟨markingFrom_agrees _ 0 _, rfl⟩

/-- Apart from the notes, a walk that takes them is the walk itself. -/
theorem fst_run_walk_marking
    (marks : ChainStep → List ε) (stop : Bool) (e : Event) (rs : List (Registration m))
    (place : Nat) (handled : Bool) (notes : List ε) :
    Prod.fst <$> (walk stop e handled (markingFrom marks place rs)).run notes =
      walk stop e handled rs :=
  walk_agrees isAgreement_forgetsTo (markingFrom_agrees marks place rs) stop handled e notes

end Marking

/-- The notes of a walk are those of verdicts in the order of the chain, and they decide how it ends. -/
theorem walk_marking_yields {σ ε : Type}
    (marks : ChainStep → List ε) (stop : Bool) (e : Event) (rs : List (Registration (Activity σ)))
    (place : Nat) (handled : Bool) (notes : List ε) :
    ((walk stop e handled (markingFrom marks place rs)).run notes).Yields fun (result, after) =>
      ∃ verdicts, IsWalk stop rs.length verdicts ∧
        after = notes ++ (stepsFrom e place verdicts).flatMap marks ∧
        result = walkResult handled verdicts := by
  induction rs generalizing place handled notes with
  | nil => exact ⟨[], .finished, by simp [stepsFrom], rfl⟩
  | cons r rest ih =>
      have hgo : ∀ (v : Verdict) (handled' : Bool), v.goesOn stop = true →
          (∀ later, walkResult handled (v :: later) = walkResult handled' later) →
          ((walk stop e handled' (markingFrom marks (place + 1) rest)).run
              (notes ++ (v.steps e place).flatMap marks)).Yields fun (result, after) =>
            ∃ verdicts, IsWalk stop (rest.length + 1) verdicts ∧
              after = notes ++ (stepsFrom e place verdicts).flatMap marks ∧
              result = walkResult handled verdicts := by
        intro v handled' hnext hresult
        refine Activity.yields_mono (ih (place + 1) handled' _) ?_
        rintro ⟨result, after⟩ ⟨later, hwalk, rfl, rfl⟩
        exact ⟨v :: later, .next hnext hwalk, by simp [stepsFrom], (hresult later).symm⟩
      rw [run_walk_marking]
      refine Activity.yields_bind (Activity.yields_true _) fun holds _ => ?_
      cases holds with
      | false => simpa [Verdict.steps] using hgo .passedOver handled rfl fun _ => rfl
      | true =>
          refine Activity.yields_bind (Activity.yields_true _) fun result _ => ?_
          cases result with
          | handled =>
              cases stop with
              | true =>
                  exact ⟨[.answered .handled], .ended rfl, by simp [stepsFrom, Verdict.steps], rfl⟩
              | false =>
                  simpa [Verdict.steps] using hgo (.answered .handled) true rfl fun _ => rfl
          | skip => simpa [Verdict.steps] using hgo (.answered .skip) handled rfl fun _ => rfl
          | cancel =>
              exact ⟨[.answered .cancel], .ended rfl, by simp [stepsFrom, Verdict.steps], rfl⟩
          | failed fault =>
              exact ⟨[.answered (.failed fault)], .ended rfl, by simp [stepsFrom, Verdict.steps], rfl⟩

end WalletEvents
