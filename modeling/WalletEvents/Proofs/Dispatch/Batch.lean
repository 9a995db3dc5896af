import WalletEvents.Dispatch.Dispatcher
import WalletEvents.Proofs.Activity.Steps

/-!
# Batches of events

A batch of one event runs like the processing of that event, because a group of
one activity runs like the activity by itself. The result of a batch is the first
failure in its order (`firstFailure_map_eq_error_iff`).
-/

namespace WalletEvents

section FirstFailure

variable {ι ε : Type} {f : ι → Except ε Unit} {xs : List ι}

theorem firstFailure_map_eq_ok_iff :
    firstFailure (xs.map f) = .ok () ↔ ∀ x ∈ xs, f x = .ok () := by
  induction xs with
  | nil => simp [firstFailure]
  | cons x xs ih =>
      rcases hx : f x with error | ⟨⟩
      · simp [firstFailure, hx]
      · simp [firstFailure, hx, ih]

theorem firstFailure_map_append_cons
    {before after : List ι} {x : ι} {error : ε}
    (hbefore : ∀ earlier ∈ before, f earlier = .ok ()) (hx : f x = .error error) :
    firstFailure ((before ++ x :: after).map f) = .error error := by
  induction before with
  | nil => simp [firstFailure, hx]
  | cons y before ih =>
      obtain ⟨hy, hrest⟩ := List.forall_mem_cons.mp hbefore
      simpa [firstFailure, hy] using ih hrest

theorem firstFailure_map_eq_error_iff {error : ε} :
    firstFailure (xs.map f) = .error error ↔ ∃ before x after, xs = before ++ x :: after ∧
      (∀ earlier ∈ before, f earlier = .ok ()) ∧ f x = .error error := by
  constructor
  · intro h
    induction xs with
    | nil => cases h
    | cons x xs ih =>
        rw [List.map_cons] at h
        rcases hx : f x with first | ⟨⟩
        · rw [hx] at h
          exact ⟨[], x, xs, rfl, by simp, hx.trans h⟩
        · rw [hx] at h
          obtain ⟨before, y, after, rfl, hbefore, hy⟩ := ih h
          exact ⟨x :: before, y, after, rfl, List.forall_mem_cons.mpr ⟨hx, hbefore⟩, hy⟩
  · rintro ⟨before, x, after, rfl, hbefore, hx⟩
    exact firstFailure_map_append_cons hbefore hx

end FirstFailure

namespace Activity

variable {σ α : Type}

theorem run_after (ms : Nat) (p : Activity σ α) (t : Nat) (s : σ) :
    (after ms p).run t s = p.run (t + ms) s := by
  unfold after
  by_cases h : ms = 0
  · simp [h]
  · simp [h, run]

/-- One activity in a group runs like by itself. -/
theorem run_gatherFrom_one
    (large : Bool) (next number delay : Nat) (p : Activity σ α) (t : Nat) (s : σ) :
    (gatherFrom large next [⟨number, delay, p⟩]).run t s =
      (p.bind fun a => .done [a]).run (t + delay) s := by
  induction p generalizing next number delay t s with
  | done a =>
      rw [gatherFrom]
      simp [Sleeper.first?, run_after, Sleeper.longestDelay, Sleeper.values]
  | crash =>
      rw [gatherFrom]
      simp [Sleeper.first?, run_after]
  | act update rest ih =>
      rw [gatherFrom]
      simp [Sleeper.first?, run_after, Sleeper.replaceAfter, run, ih]
  | sleep ms rest ih =>
      rw [gatherFrom]
      simp [Sleeper.first?, run_after, Sleeper.replaceAfter, run, ih]

theorem run_gather_one (p : Activity σ α) (t : Nat) (s : σ) :
    (gather [p]).run t s = (p.bind fun a => .done [a]).run t s := by
  simp [gather, run_gatherFrom_one]

theorem gather_nil : gather ([] : List (Activity σ α)) = .done [] := by
  rw [gather, List.mapIdx_nil, gatherFrom]
  rfl

end Activity

namespace Dispatcher

variable {σ : Type}

@[simp] theorem feedEvents_nil (d : Dispatcher (Activity σ)) :
    d.feedEvents [] = .done (.ok ()) := by
  simp only [feedEvents, List.map_nil, Activity.gather_nil]
  rfl

/-- A batch of one event runs like the processing of the event. -/
theorem run_feedEvents_one
    (d : Dispatcher (Activity σ)) (e : Event) (t : Nat) (w : σ) :
    (d.feedEvents [e]).run t w = (d.processEvent e).run t w := by
  have hfirst : ∀ ended : Except DispatchError Unit, firstFailure [ended] = ended := by
    rintro (e | ⟨⟩) <;> rfl
  simp only [feedEvents, List.map_cons, List.map_nil, Activity.bind_eq, Activity.pure_eq_done,
    Activity.run_bind, Activity.run_gather_one]
  rcases (d.processEvent e).run t w with ⟨_ | ended, t', w'⟩
  · rfl
  · simp [Activity.run, hfirst]

end Dispatcher

end WalletEvents
