import WalletEvents.Proofs.Dispatch.Walk

/-!
# No failure of a handler is lost

An event walks along the chain of its kind, and the failure of a handler may walk
along the chain of the error handlers. `Processed` says how the two walks and the
result of the processing belong together:

* there is a second walk exactly if a handler of the first one has failed, the event
  is none of a failure itself, and there are error handlers; it is a walk of the very
  fault with the very event;
* the result is a success exactly if no handler has failed, or an error handler has
  handled the failure and none has failed in turn;
* in all other cases the result names the kind of the event and the fault that is
  left.

**Result.** `Dispatcher.no_failure_is_lost`: every processing is of this form.
-/

namespace WalletEvents

variable {σ : Type}

/-- The verdicts of the walks of an event, the second with its fault, and the result. -/
structure Processed {m : Type → Type} (d : Dispatcher m) (e : Event) (first : List Verdict)
    (second : Option (HandlerFault × List Verdict)) (result : Except DispatchError Unit) :
    Prop where
  first_walk : IsWalk (d.chain e.kind).stopOnFirstMatch (d.count e.kind) first
  second_walk : ∀ fault verdicts, second = some (fault, verdicts) →
    IsWalk d.errors.stopOnFirstMatch (d.count .error) verdicts
  /-- There is a second walk for the fault of the first, if anybody is there for it. -/
  second_iff : ∀ fault, (∃ verdicts, second = some (fault, verdicts)) ↔
    HasFailed first fault ∧ e.kind ≠ .error ∧ d.errors.registrations ≠ []
  ok_iff : result = .ok () ↔
    (∀ fault, ¬ HasFailed first fault) ∨
    ∃ fault verdicts, second = some (fault, verdicts) ∧
      HasHandled verdicts ∧ ∀ again, ¬ HasFailed verdicts again
  errorHandlerFailed_iff : ∀ kind again, result = .error (.errorHandlerFailed kind again) ↔
    kind = e.kind ∧ ∃ fault verdicts, second = some (fault, verdicts) ∧ HasFailed verdicts again
  unhandled_iff : ∀ kind fault, result = .error (.unhandled kind fault) ↔
    kind = e.kind ∧ HasFailed first fault ∧
    ¬ ∃ routed verdicts, second = some (routed, verdicts) ∧
      (HasHandled verdicts ∨ ∃ again, HasFailed verdicts again)

/-- The visits of both walks of an event. -/
def processingVisits (e : Event) (first : List Verdict)
    (second : Option (HandlerFault × List Verdict)) : List Visit :=
  visitsFrom e.kind e 0 first ++
    second.elim [] fun routed => visitsFrom .error (.fault routed.1 e) 0 routed.2

namespace Processed

variable {d : Dispatcher (Activity σ)} {e : Event} {first verdicts : List Verdict}
variable {fault : HandlerFault}

/-- No handler has failed. -/
theorem of_not_failed
    (hwalk : IsWalk (d.chain e.kind).stopOnFirstMatch (d.count e.kind) first)
    (hnone : ∀ fault, ¬ HasFailed first fault) :
    Processed d e first none (.ok ()) where
  first_walk := hwalk
  second_walk := by simp
  second_iff := by simp [hnone]
  ok_iff := by simp [hnone]
  errorHandlerFailed_iff := by simp
  unhandled_iff := by simp [hnone]

/-- A handler has failed, and nobody is there for its failure. -/
theorem of_unrouted
    (hwalk : IsWalk (d.chain e.kind).stopOnFirstMatch (d.count e.kind) first)
    (hfailed : ∀ other, HasFailed first other ↔ other = fault)
    (hnobody : e.kind = .error ∨ d.errors.registrations = []) :
    Processed d e first none (.error (.unhandled e.kind fault)) where
  first_walk := hwalk
  second_walk := by simp
  second_iff := by
    intro other
    simp only [reduceCtorEq, exists_false, false_iff]
    rintro ⟨-, hkind, herrors⟩
    exact hnobody.elim hkind herrors
  ok_iff := by simp [hfailed]
  errorHandlerFailed_iff := by simp
  unhandled_iff := by
    intro kind other
    simp [hfailed, eq_comm]

/-- A handler has failed, and its failure was given to the error handlers. -/
theorem of_routed
    {result : Except DispatchError Unit}
    (hwalk : IsWalk (d.chain e.kind).stopOnFirstMatch (d.count e.kind) first)
    (hfailed : ∀ other, HasFailed first other ↔ other = fault)
    (hkind : e.kind ≠ .error) (herrors : d.errors.registrations ≠ [])
    (hagain : IsWalk d.errors.stopOnFirstMatch (d.count .error) verdicts)
    (hok : result = .ok () ↔ HasHandled verdicts ∧ ∀ again, ¬ HasFailed verdicts again)
    (herror : ∀ kind again, result = .error (.errorHandlerFailed kind again) ↔
      kind = e.kind ∧ HasFailed verdicts again)
    (hunhandled : ∀ kind other, result = .error (.unhandled kind other) ↔
      kind = e.kind ∧ other = fault ∧
      ¬ (HasHandled verdicts ∨ ∃ again, HasFailed verdicts again)) :
    Processed d e first (some (fault, verdicts)) result where
  first_walk := hwalk
  second_walk := by
    rintro _ _ ⟨⟩
    exact hagain
  second_iff := by
    intro other
    simp [hfailed, hkind, herrors, eq_comm]
  ok_iff := by
    rw [hok]
    constructor
    · intro hhandled
      exact .inr ⟨fault, verdicts, rfl, hhandled⟩
    · rintro (hnone | ⟨_, _, ⟨⟩, hhandled⟩)
      · exact absurd ((hfailed fault).mpr rfl) (hnone fault)
      · exact hhandled
  errorHandlerFailed_iff := by
    intro kind again
    rw [herror]
    refine and_congr_right fun _ => ⟨fun h => ⟨fault, verdicts, rfl, h⟩, ?_⟩
    rintro ⟨_, _, ⟨⟩, h⟩
    exact h
  unhandled_iff := by
    intro kind other
    rw [hunhandled, hfailed]
    refine and_congr_right fun _ => and_congr_right fun _ => not_congr ?_
    constructor
    · intro h
      exact ⟨fault, verdicts, rfl, h⟩
    · rintro ⟨_, _, ⟨⟩, h⟩
      exact h

end Processed

/-- **No failure of a handler is lost.** A dispatcher that notes down its visits processes an event like
the dispatcher itself, and whatever happens to the state in between, the notes are those of a walk
along the chain of the event, and of a second walk for its failure, which decide the result. -/
theorem Dispatcher.no_failure_is_lost (d : Dispatcher (Activity σ)) (e : Event) :
    Prod.fst <$> (d.noting.processEvent e).run [] = d.processEvent e ∧
    ((d.noting.processEvent e).run []).Yields fun (result, visits) =>
      ∃ first second, visits = processingVisits e first second ∧
        Processed d e first second result := by
  refine ⟨d.fst_run_noting e [], ?_⟩
  rw [d.run_noting]
  refine Activity.yields_bind (walk_yields e.kind _ e _ 0 false []) ?_
  rintro ⟨result, visits⟩ ⟨first, hwalk, hvisits, rfl⟩
  rcases hwalk.result_cases false with ⟨fault, hresult, hfailed⟩ | ⟨did, hresult, -, hnone⟩
  · simp only [hresult]
    split
    · rename_i hnobody
      exact ⟨first, none, by simp [hvisits, processingVisits],
        .of_unrouted hwalk hfailed hnobody⟩
    · rename_i hsomebody
      obtain ⟨hkind, herrors⟩ := not_or.mp hsomebody
      refine Activity.yields_bind (walk_yields .error _ (.fault fault e) _ 0 false visits) ?_
      rintro ⟨again, visits⟩ ⟨verdicts, hagain, hvisits', rfl⟩
      have hnotes : visits = processingVisits e first (some (fault, verdicts)) := by
        simp [hvisits', hvisits, processingVisits]
      rcases hagain.result_cases false with
        ⟨second, hsecond, hfailed'⟩ | ⟨did, hsecond, hdid, hnone⟩
      · simp only [hsecond]
        refine ⟨first, _, hnotes, .of_routed hwalk hfailed hkind herrors hagain ?_ ?_ ?_⟩
        · simp [hfailed']
        · simp [hfailed', eq_comm]
        · simp [hfailed']
      · have hdid : did = true ↔ HasHandled verdicts := by
          simpa using hdid
        cases did with
        | true =>
            simp only [hsecond]
            refine ⟨first, _, hnotes, .of_routed hwalk hfailed hkind herrors hagain ?_ ?_ ?_⟩
            · simp [← hdid, hnone]
            · simp [hnone]
            · simp [← hdid]
        | false =>
            simp only [hsecond]
            refine ⟨first, _, hnotes, .of_routed hwalk hfailed hkind herrors hagain ?_ ?_ ?_⟩
            · simp [← hdid]
            · simp [hnone]
            · simp [← hdid, hnone, eq_comm]
  · simp only [hresult]
    exact ⟨first, none, by simp [hvisits, processingVisits], .of_not_failed hwalk hnone⟩

end WalletEvents
