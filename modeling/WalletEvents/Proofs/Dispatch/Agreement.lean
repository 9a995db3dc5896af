import Mathlib.Data.List.Forall2
import WalletEvents.Dispatch.Dispatcher

/-!
# Dispatchers that agree

A dispatcher may run in any monad, and all that it does itself is to go from one filter or
handler to the next.

**Input.** Two dispatchers in two monads, and a relation between the computations of these.
It is an agreement when it holds of two computations that give the same value at once, and
of two that agree so far and then go on in agreement, whatever the value is (`IsAgreement`).

**Result.** `Dispatcher.processEvent_agrees`: if the filters and handlers at every place
agree, the two dispatchers process every event in agreement.
-/

namespace WalletEvents

section

variable {m n : Type → Type} [Monad m] [Monad n] {R : ∀ α, m α → n α → Prop}

/-- The relation holds of computations that give the same value, and goes over to one computation after
the other. -/
structure IsAgreement (R : ∀ α, m α → n α → Prop) : Prop where
  pure {α : Type} (a : α) : R α (Pure.pure a) (Pure.pure a)
  bind {α β : Type} {p : m α} {q : n α} {k : α → m β} {l : α → n β}
    (hfirst : R α p q) (hrest : ∀ a, R β (k a) (l a)) : R β (p >>= k) (q >>= l)

/-- The filters agree on every event, and so do the handlers. -/
structure Registration.Agrees (R : ∀ α, m α → n α → Prop) (r : Registration m)
    (o : Registration n) : Prop where
  filters : ∀ e, R Bool (Filter.checkAll (fun ask => ask e) r.filters)
    (Filter.checkAll (fun ask => ask e) o.filters)
  handler : ∀ e, R HandlerResult (r.handler e) (o.handler e)

/-- The registrations agree place by place. -/
structure HandlerChain.Agrees (R : ∀ α, m α → n α → Prop) (c : HandlerChain m)
    (o : HandlerChain n) : Prop where
  registrations : List.Forall₂ (Registration.Agrees R) c.registrations o.registrations
  stopOnFirstMatch : c.stopOnFirstMatch = o.stopOnFirstMatch

/-- The chains of every kind agree. -/
def Dispatcher.Agrees (R : ∀ α, m α → n α → Prop) (d : Dispatcher m) (o : Dispatcher n) : Prop :=
  ∀ kind, (d.chain kind).Agrees R (o.chain kind)

theorem walk_agrees
    (hR : IsAgreement R) {rs : List (Registration m)} {os : List (Registration n)}
    (h : List.Forall₂ (Registration.Agrees R) rs os) (stop handled : Bool) (e : Event) :
    R _ (walk stop e handled rs) (walk stop e handled os) := by
  induction h generalizing handled with
  | nil => exact hR.pure _
  | cons hfirst _ ih =>
      refine hR.bind (hfirst.filters e) fun hold => ?_
      cases hold with
      | false => exact ih handled
      | true =>
          refine hR.bind (hfirst.handler e) fun result => ?_
          cases result with
          | handled =>
              cases stop with
              | true => exact hR.pure _
              | false => exact ih true
          | skip => exact ih handled
          | cancel => exact hR.pure _
          | failed fault => exact hR.pure _

theorem HandlerChain.notify_agrees
    (hR : IsAgreement R) {c : HandlerChain m} {o : HandlerChain n} (h : c.Agrees R o) (e : Event) :
    R _ (c.notify e) (o.notify e) := by
  rw [notify, notify, h.stopOnFirstMatch]
  exact walk_agrees hR h.registrations o.stopOnFirstMatch false e

theorem HandlerChain.Agrees.registrations_eq_nil_iff
    {c : HandlerChain m} {o : HandlerChain n} (h : c.Agrees R o) :
    c.registrations = [] ↔ o.registrations = [] := by
  rw [← List.length_eq_zero_iff, ← List.length_eq_zero_iff, h.registrations.length_eq]

theorem Dispatcher.processEvent_agrees
    (hR : IsAgreement R) {d : Dispatcher m} {o : Dispatcher n} (h : d.Agrees R o) (e : Event) :
    R _ (d.processEvent e) (o.processEvent e) := by
  refine hR.bind (HandlerChain.notify_agrees hR (h e.kind) e) fun first => ?_
  cases first with
  | ok handled => exact hR.pure _
  | error fault =>
      have hnobody : (e.kind = .error ∨ d.errors.registrations = []) ↔
          (e.kind = .error ∨ o.errors.registrations = []) :=
        or_congr_right (h .error).registrations_eq_nil_iff
      by_cases hrouted : e.kind = .error ∨ o.errors.registrations = []
      · simp only [hnobody, if_pos hrouted]
        exact hR.pure _
      · simp only [hnobody, if_neg hrouted]
        refine hR.bind (HandlerChain.notify_agrees hR (h .error) (.fault fault e)) fun second => ?_
        rcases second with again | _ | _
        · exact hR.pure _
        · exact hR.pure _
        · exact hR.pure _

end

end WalletEvents
