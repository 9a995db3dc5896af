import WalletEvents.Polling.Loop
import WalletEvents.Proofs.Activity.Trace

/-!
# Runs of the polling loop

What the loop writes to a log, while others do to the state what they may.

**Results.**

* `Poller.run_cases`: what the loop writes are the entries of ticks that have all come
  to their ends; only a tick that breaks off ends the loop before its own end.
* `Poller.ticks_of_unstopped`, `Poller.run_false`: a loop that ends before the stop signal
  has made all its ticks and taken its pauses; so with pauses that take time enough ticks
  reach any stop.
-/

namespace WalletEvents

variable {ω ε : Type} {R : Shared ω → Shared ω → Prop} {log : Shared ω → List ε}
variable {t t' : Nat} {s s' : Shared ω} {w : List ε}

namespace Shared

theorem only_stopRequested [Std.Refl R] (moment : StopMoment) :
    (stopRequested moment).Only R :=
  Activity.only_modifyGet fun _ s => refl_of R s

theorem only_pauseUnlessStopped [Std.Refl R] (moment : StopMoment) (time : Nat) :
    (pauseUnlessStopped moment time).Only R := by
  have hlook : (released moment).Only R := Activity.only_modifyGet fun _ s => refl_of R s
  induction time with
  | zero => exact hlook
  | succ time ih =>
      refine Activity.only_bind hlook fun ended => ?_
      cases ended with
      | true => exact Activity.only_pure true
      | false => exact Activity.only_bind (Activity.only_pause 1) fun _ => ih

theorem returns_stopRequested (moment : StopMoment) :
    (stopRequested moment : Activity (Shared ω) Bool).Returns := fun _ _ => trivial

theorem returns_pauseUnlessStopped (moment : StopMoment) (time : Nat) :
    (pauseUnlessStopped moment time : Activity (Shared ω) Bool).Returns := by
  induction time with
  | zero => exact Activity.returns_modifyGet _
  | succ time ih =>
      refine Activity.returns_bind (Activity.returns_modifyGet _) fun ended => ?_
      cases ended with
      | true => trivial
      | false => exact ih

theorem only_untilStopped [Std.Refl R] (moment : StopMoment) (patience : Nat) :
    (untilStopped moment patience).Only R :=
  Activity.only_bind (Activity.only_modifyGet fun _ s => refl_of R s) fun left =>
    only_pauseUnlessStopped moment left

theorem returns_untilStopped (moment : StopMoment) (patience : Nat) :
    (untilStopped moment patience : Activity (Shared ω) Bool).Returns :=
  Activity.returns_bind (Activity.returns_modifyGet _) fun left =>
    returns_pauseUnlessStopped moment left

variable [IsPreorder (Shared ω) R]

/-- A pause that is not cut short has its full length and ends before the stop signal. -/
theorem pauseUnlessStopped_false
    {m : OutsideStop} {time : Nat}
    (h : Activity.Trace R log (pauseUnlessStopped (some m) time) t s w t' s' (some false)) :
    t + time ≤ t' ∧ t' < m.time := by
  induction time generalizing t s w with
  | zero =>
      obtain ⟨s₀, -, -, rfl, -, hreleased⟩ := h.modifyGet_inv
      simp only [Option.some.injEq] at hreleased
      have hnot : s₀.stopped = false ∧ t' < m.time := by simpa [isReleased] using hreleased.symm
      exact ⟨Nat.le_refl _, hnot.2⟩
  | succ time ih =>
      obtain ⟨ended, _, _, t₁, s₁, -, hlook, hrest⟩ := h.bind_inv
      obtain ⟨s₀, -, -, rfl, -, -⟩ := hlook.modifyGet_inv
      cases ended with
      | true =>
          obtain ⟨-, -, -, htrue⟩ := hrest.pure_inv
          cases htrue
      | false =>
          obtain ⟨_, _, _, t₂, s₂, -, hpause, hrest⟩ := hrest.bind_inv
          obtain ⟨-, rfl, -, -⟩ := hpause.pause_inv
          obtain ⟨hlong, hbefore⟩ := ih hrest
          exact ⟨by omega, hbefore⟩

/-- Waiting for a stop that comes from outside ends. -/
theorem untilStopped_some
    {m : OutsideStop} {patience : Nat} {stopped : Bool}
    (h : Activity.Trace R log (untilStopped (some m) patience) t s w t' s' (some stopped)) :
    stopped = true := by
  obtain ⟨left, _, _, t₁, _, -, hlook, hrest⟩ := h.bind_inv
  obtain ⟨_, -, -, rfl, -, hleft⟩ := hlook.modifyGet_inv
  obtain rfl : left = m.time - t₁ := by simpa using hleft
  cases stopped with
  | true => rfl
  | false =>
      obtain ⟨hlong, hbefore⟩ := pauseUnlessStopped_false hrest
      omega

end Shared

namespace Poller

open Activity

variable {p : Poller (Shared ω)} {moment : StopMoment}

/-- The tick that begins with a poll state may write the entries before it ends with another one. -/
def TickWrites (log : Shared ω → List ε) (p : Poller (Shared ω)) (st : PollState) (w : List ε)
    (st' : PollState) : Prop :=
  ∃ t s t' s' result, Trace Anything log (p.tick st) t s w t' s' (some (result, st'))

/-- The tick that begins with a poll state may write the entries before it breaks off. -/
def TickBreaksOff (log : Shared ω → List ε) (p : Poller (Shared ω)) (st : PollState) (w : List ε) :
    Prop :=
  ∃ t s t' s', Trace Anything log (p.tick st) t s w t' s' none

/-- What so many ticks write one after another, each of which comes to its end. -/
inductive Ticks (log : Shared ω → List ε) (p : Poller (Shared ω)) :
    Nat → PollState → List ε → PollState → Prop
  | none (st : PollState) : Ticks log p 0 st [] st
  | next
      {n : Nat} {st st₁ st' : PollState} {w v : List ε}
      (hfirst : p.TickWrites log st w st₁) (hrest : Ticks log p n st₁ v st') :
      Ticks log p (n + 1) st (w ++ v) st'

variable [IsPreorder (Shared ω) R]

/-- The loop makes whole ticks; it ends by itself unless it has made all of them, or breaks off in the
middle of a tick. -/
theorem run_cases
    {ticks : Nat} {st : PollState} {x : Option Bool}
    (h : Trace R log (p.run moment ticks st) t s w t' s' x) :
    (∃ ended n st', x = some ended ∧ Ticks log p n st w st' ∧ (ended = false → n = ticks)) ∨
    (x = none ∧ ∃ n st' v u, w = v ++ u ∧ Ticks log p n st v st' ∧ p.TickBreaksOff log st' u) := by
  induction ticks generalizing t s w st with
  | zero =>
      obtain ⟨ended, rfl⟩ : ∃ ended, x = some ended := by
        obtain ⟨s₁, -, -, -, -, hx⟩ := h.modifyGet_inv
        exact ⟨_, hx⟩
      obtain rfl := h.eq_nil_of_only (Shared.only_stopRequested moment)
      exact .inl ⟨ended, 0, st, rfl, .none st, fun _ => rfl⟩
  | succ ticks ih =>
      rw [run] at h
      obtain ⟨stopped, t₁, s₁, -, h⟩ := h.bind_silent
        (Shared.returns_stopRequested moment) (Shared.only_stopRequested moment)
      cases stopped with
      | true =>
          obtain ⟨rfl, -, -, rfl⟩ := h.pure_inv
          exact .inl ⟨true, 0, st, rfl, .none st, by simp⟩
      | false =>
          rcases h.bind_cases with ⟨⟨result, st₁⟩, u, v, t₂, s₂, rfl, htick, h⟩ | ⟨rfl, htick⟩
          · have hfirst : p.TickWrites log st u st₁ :=
              ⟨t₁, s₁, t₂, s₂, result, htick.mono fun _ _ _ => trivial⟩
            obtain ⟨paused, t₃, s₃, -, h⟩ := h.bind_silent
              (Shared.returns_pauseUnlessStopped moment _) (Shared.only_pauseUnlessStopped moment _)
            cases paused with
            | true =>
                obtain ⟨rfl, -, -, rfl⟩ := h.pure_inv
                exact .inl ⟨true, 1, st₁, rfl, .next hfirst (.none st₁), by simp⟩
            | false =>
                rcases ih h with ⟨ended, n, st', rfl, hticks, hall⟩ |
                  ⟨rfl, n, st', v, u', rfl, hticks, hbroken⟩
                · exact .inl ⟨ended, n + 1, st', rfl, .next hfirst hticks, by simpa using hall⟩
                · exact .inr ⟨rfl, n + 1, st', u ++ v, u', by simp, .next hfirst hticks, hbroken⟩
          · exact .inr ⟨rfl, 0, st, [], w, rfl, .none st, t₁, s₁, t', s',
              htick.mono fun _ _ _ => trivial⟩

/-- A loop that has not been stopped has made all its ticks. -/
theorem ticks_of_unstopped
    {ticks : Nat} {st : PollState}
    (h : Trace R log (p.run moment ticks st) t s w t' s' (some false)) :
    ∃ st', Ticks log p ticks st w st' := by
  rcases run_cases h with ⟨ended, n, st', hended, hticks, hall⟩ | ⟨hnone, -⟩
  · cases hended
    obtain rfl := hall rfl
    exact ⟨st', hticks⟩
  · cases hnone

/-- A loop that has made all its ticks before the stop signal has paused after each of them. -/
theorem run_false
    {m : OutsideStop} {ticks : Nat} {st : PollState}
    (hrefetch : 0 < p.config.refetchTimeout.milliseconds)
    (hbackoff : 0 < p.config.backoffTimeout.milliseconds)
    (h : Trace R log (p.run (some m) ticks st) t s w t' s' (some false)) :
    t + ticks ≤ t' ∧ (0 < ticks → t' < m.time) := by
  have hpause : ∀ result, 0 < pauseAfter p.config result := by
    intro result
    cases result with
    | ok _ => exact hrefetch
    | error _ => exact hbackoff
  induction ticks generalizing t s w st with
  | zero => exact ⟨h.le, by simp⟩
  | succ ticks ih =>
      rw [run] at h
      obtain ⟨stopped, _, _, t₁, s₁, -, hlook, h⟩ := h.bind_inv
      cases stopped with
      | true =>
          obtain ⟨-, -, -, htrue⟩ := h.pure_inv
          cases htrue
      | false =>
          obtain ⟨⟨result, st₁⟩, _, _, t₂, s₂, -, htick, h⟩ := h.bind_inv
          obtain ⟨paused, _, _, t₃, s₃, -, hpaused, h⟩ := h.bind_inv
          cases paused with
          | true =>
              obtain ⟨-, -, -, htrue⟩ := h.pure_inv
              cases htrue
          | false =>
              obtain ⟨hlong, hbefore⟩ := Shared.pauseUnlessStopped_false hpaused
              obtain ⟨hrest, hlast⟩ := ih h
              have hone : t + 1 ≤ t₃ := by
                have hstart := hlook.le
                have hmid := htick.le
                have hlength := hpause result
                omega
              refine ⟨by omega, fun _ => ?_⟩
              rcases Nat.eq_zero_or_pos ticks with rfl | hpos
              · obtain ⟨_, -, -, rfl, -, -⟩ := h.modifyGet_inv
                exact hbefore
              · exact hlast hpos

end Poller

end WalletEvents
