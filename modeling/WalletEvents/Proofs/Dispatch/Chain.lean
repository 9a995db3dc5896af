import WalletEvents.Proofs.Activity.Trace
import WalletEvents.Proofs.Dispatch.Report

/-!
# What a chain does with an event

**Input.** A chain of handlers, whose filters and handlers may do anything, and an event.

**Output.** The steps of the walk along the chain, in the order in which they are taken,
and its result.

**Result.** `HandlerChain.calls_matching_handlers`: the steps and the result are those of
a list of verdicts (`HandlerChain.Walked`), one for each registration that the walk comes
to.

* The handler is called where all filters hold, and nowhere else, right after they have
  been evaluated.
* The list ends with the first verdict after which a walk does not go on, and with the
  chain if there is none. Behind it no filter is evaluated and no handler called.
* The result is the fault of the last verdict, if there is one, and else it tells whether
  some handler has handled the event.
-/

namespace WalletEvents

/-- A walk along a chain: its verdicts, the steps that it has taken and its result. -/
structure HandlerChain.Walked {m : Type → Type} (c : HandlerChain m) (e : Event)
    (verdicts : List Verdict) (steps : List ChainStep) (result : Except HandlerFault Bool) :
    Prop where
  /-- The walk comes to the registrations in their order, and at each it does what its verdict says. -/
  steps_eq : steps = stepsFrom e 0 verdicts
  length_le : verdicts.length ≤ c.registrations.length
  /-- It has gone on after all verdicts but the last. -/
  goesOn : ∀ place v, verdicts[place]? = some v → place + 1 < verdicts.length →
    v.goesOn c.stopOnFirstMatch = true
  /-- It has left registrations out only behind a verdict after which it does not go on. -/
  ended : verdicts.length < c.registrations.length →
    ∃ v, verdicts.getLast? = some v ∧ v.goesOn c.stopOnFirstMatch = false
  error_iff : ∀ fault, result = .error fault ↔
    verdicts.getLast? = some (.answered (.failed fault))
  ok_iff : ∀ handled, result = .ok handled ↔
    (∀ fault, verdicts.getLast? ≠ some (.answered (.failed fault))) ∧
    (handled = true ↔ HasHandled verdicts)
  handled_once : c.stopOnFirstMatch = true → verdicts.count (.answered .handled) ≤ 1

namespace IsWalk

variable {stop : Bool} {n : Nat} {verdicts : List Verdict}

theorem length_le (h : IsWalk stop n verdicts) :
    verdicts.length ≤ n := by
  induction h with
  | finished => exact Nat.le_refl _
  | ended => simp
  | next _ _ ih => exact Nat.succ_le_succ ih

theorem goesOn_of_lt
    (h : IsWalk stop n verdicts) {place : Nat} {v : Verdict}
    (hv : verdicts[place]? = some v) (hlt : place + 1 < verdicts.length) :
    v.goesOn stop = true := by
  induction h generalizing place with
  | finished => simp at hlt
  | ended => simp at hlt
  | next hnext _ ih =>
      cases place with
      | zero =>
          obtain rfl : _ = v := by simpa using hv
          exact hnext
      | succ place => exact ih (by simpa using hv) (by simpa using hlt)

theorem ended_of_lt (h : IsWalk stop n verdicts) (hlt : verdicts.length < n) :
    ∃ v, verdicts.getLast? = some v ∧ v.goesOn stop = false := by
  induction h with
  | finished => simp at hlt
  | @ended _ v hlast => exact ⟨v, rfl, hlast⟩
  | @next _ v rest _ _ ih =>
      obtain ⟨last, hlast, hends⟩ := ih (by simpa using hlt)
      refine ⟨last, ?_, hends⟩
      rw [List.getLast?_cons, hlast]
      rfl

/-- A handler can only have failed at the end of a walk. -/
theorem hasFailed_iff (h : IsWalk stop n verdicts) (fault : HandlerFault) :
    HasFailed verdicts fault ↔ verdicts.getLast? = some (.answered (.failed fault)) := by
  induction h with
  | finished => simp [HasFailed]
  | @ended _ v _ => simp [HasFailed, eq_comm]
  | @next n v rest hnext hrest ih =>
      have hfirst : v ≠ .answered (.failed fault) := by
        rintro rfl
        cases hnext
      have htail : HasFailed (v :: rest) fault ↔ HasFailed rest fault := by
        simp [HasFailed, hfirst.symm]
      rw [htail, ih]
      cases rest with
      | nil => simp [hfirst]
      | cons w others => rw [List.getLast?_cons_cons]

/-- A walk that stops on the first match ends with the first handler that handles the event. -/
theorem count_handled_le (h : IsWalk true n verdicts) :
    verdicts.count (.answered .handled) ≤ 1 := by
  induction h with
  | finished => simp
  | ended => exact Nat.le_trans List.count_le_length (Nat.le_refl _)
  | @next n v rest hnext _ ih =>
      have hfirst : v ≠ .answered .handled := by
        rintro rfl
        cases hnext
      rwa [List.count_cons_of_ne hfirst]

end IsWalk

namespace HandlerChain

theorem walked_of_isWalk {m : Type → Type}
    (c : HandlerChain m) (e : Event) {verdicts : List Verdict}
    (h : IsWalk c.stopOnFirstMatch c.registrations.length verdicts) :
    c.Walked e verdicts (stepsFrom e 0 verdicts) (walkResult false verdicts) where
  steps_eq := rfl
  length_le := h.length_le
  goesOn _ _ hv hlt := h.goesOn_of_lt hv hlt
  ended := h.ended_of_lt
  error_iff := by
    intro fault
    rw [← h.hasFailed_iff]
    rcases h.result_cases false with ⟨other, hresult, hfailed⟩ | ⟨did, hresult, -, hnone⟩
    · rw [hresult, hfailed, Except.error.injEq, eq_comm]
    · simp [hresult, hnone]
  ok_iff := by
    intro handled
    simp only [ne_eq, ← h.hasFailed_iff]
    rcases h.result_cases false with ⟨other, hresult, hfailed⟩ | ⟨did, hresult, hdid, hnone⟩
    · simp [hresult, hfailed]
    · have hdid : did = true ↔ HasHandled verdicts := by
        simpa using hdid
      rw [hresult, ← hdid]
      cases did <;> cases handled <;> simp [hnone]
  handled_once := by
    intro hstop
    rw [hstop] at h
    exact h.count_handled_le

end HandlerChain

/-- A walk comes to its end, if the filters and handlers that it may come to do. -/
theorem returns_walk {σ : Type}
    {stop handled : Bool} {e : Event} {rs : List (Registration (Activity σ))}
    (h : ∀ r ∈ rs, Activity.Returns (Filter.checkAll (fun ask => ask e) r.filters) ∧
      (r.handler e).Returns) :
    (walk stop e handled rs).Returns := by
  induction rs generalizing handled with
  | nil => trivial
  | cons r rest ih =>
      have hrest : ∀ handled', (walk stop e handled' rest).Returns :=
        fun _ => ih fun other hother => h other (by simp [hother])
      obtain ⟨hfilters, hhandler⟩ := h r (by simp)
      refine Activity.returns_bind hfilters fun hold => ?_
      cases hold with
      | false => exact hrest handled
      | true =>
          refine Activity.returns_bind hhandler fun result => ?_
          cases result with
          | handled =>
              cases stop with
              | true => trivial
              | false => exact hrest true
          | skip => exact hrest handled
          | cancel => trivial
          | failed fault => trivial

/-- **A chain calls the handlers that match.** A chain that notes down its steps does the same with an
event as the chain itself, and whatever happens to the state in between, the notes and the result are
those of a walk. The walk comes to its end, if the filters and handlers of the chain do. -/
theorem HandlerChain.calls_matching_handlers {σ : Type}
    (c : HandlerChain (Activity σ)) (e : Event) :
    Prod.fst <$> (c.stepping.notify e).run [] = c.notify e ∧
    ((c.stepping.notify e).run []).Yields (fun (result, steps) =>
      ∃ verdicts, c.Walked e verdicts steps result) ∧
    ((∀ r ∈ c.registrations, Activity.Returns (Filter.checkAll (fun ask => ask e) r.filters) ∧
      (r.handler e).Returns) → (c.notify e).Returns) := by
  refine ⟨fst_run_walk_marking _ c.stopOnFirstMatch e c.registrations 0 false [], ?_, returns_walk⟩
  refine Activity.yields_mono
    (walk_marking_yields _ c.stopOnFirstMatch e c.registrations 0 false []) ?_
  rintro ⟨result, steps⟩ ⟨verdicts, hwalk, rfl, rfl⟩
  refine ⟨verdicts, ?_⟩
  rw [List.nil_append, List.flatMap_singleton']
  exact c.walked_of_isWalk e hwalk

/-- A notice of a paid bill. -/
def paidEvent : Event :=
  .bill ⟨⟨"shop", "7", ⟨"1.00", "RUB"⟩, ⟨.paid, none⟩, none, none, none, none, none⟩, "1"⟩

/-- A chain where every verdict comes up; the last handler would handle the event too. -/
def variedChain : HandlerChain (Activity Unit) where
  registrations := [
    ⟨[], fun _ => pure .handled⟩,
    ⟨[.leaf fun _ => pure false], fun _ => pure .cancel⟩,
    ⟨[.not (.leaf fun _ => pure false)], fun _ => pure .skip⟩,
    ⟨[], fun _ => pure (.failed ⟨"boom"⟩)⟩,
    ⟨[], fun _ => pure .handled⟩]
  stopOnFirstMatch := false

theorem HandlerChain.calls_matching_handlers_of_varied :
    (∀ r ∈ variedChain.registrations,
      Activity.Returns (Filter.checkAll (fun ask => ask paidEvent) r.filters) ∧
      (r.handler paidEvent).Returns) ∧
    (variedChain.notify paidEvent).Returns ∧
    ∃ verdicts, variedChain.Walked paidEvent verdicts
      [.checked 0 paidEvent true, .called 0 paidEvent .handled, .checked 1 paidEvent false,
        .checked 2 paidEvent true, .called 2 paidEvent .skip, .checked 3 paidEvent true,
        .called 3 paidEvent (.failed ⟨"boom"⟩)]
      (.error ⟨"boom"⟩) := by
  obtain ⟨-, hwalked, hreturns⟩ := variedChain.calls_matching_handlers paidEvent
  have hchain : ∀ r ∈ variedChain.registrations,
      Activity.Returns (Filter.checkAll (fun ask => ask paidEvent) r.filters) ∧
      (r.handler paidEvent).Returns := by
    simp only [variedChain, List.forall_mem_cons, List.not_mem_nil, false_implies, implies_true,
      and_true]
    exact ⟨⟨trivial, trivial⟩, ⟨trivial, trivial⟩, ⟨trivial, trivial⟩, ⟨trivial, trivial⟩,
      ⟨trivial, trivial⟩⟩
  exact ⟨hchain, hreturns hchain, hwalked.of_run (t := 0) (s := ()) rfl⟩

end WalletEvents
