import WalletEvents.Proofs.Activity.Steps
import Mathlib.Data.List.Induction

/-!
# Activities that interleave

This module gives the runs of many activities on one state, where nothing is
assumed about whose turn it is.

**Input.** A list of turns. A turn lets a new activity arrive, which is started
for a request, or lets one that is under way take its next step at any time.

**Output.** The state and, for every activity, its request, the number of steps
it has taken and what is left of it.

The steps of different activities may be mixed in any way, so a fact about all
lists of turns is a fact about every schedule.
-/

namespace WalletEvents

/-- An activity under way, the request it was started for, and the number of its steps so far. -/
structure Thread (ι σ α : Type) where
  request : ι
  steps : Nat
  rest : Activity σ α

/-- Activities under way on one state, in the order of their arrival. -/
structure Crowd (ι σ α : Type) where
  state : σ
  threads : List (Thread ι σ α)

/-- What happens next: a request arrives, or a thread takes a step at a time. -/
inductive Turn (ι : Type) where
  | arrive (request : ι)
  | advance (thread time : Nat)

namespace Crowd

variable {ι σ α : Type}

/-- The crowd after a turn; the turn of a thread that has ended, or is not there, changes nothing. -/
def turn (program : Nat → ι → Activity σ α) (c : Crowd ι σ α) : Turn ι → Crowd ι σ α
  | .arrive q => { c with threads := c.threads ++ [⟨q, 0, program c.threads.length q⟩] }
  | .advance i t =>
      match c.threads[i]? with
      | none => c
      | some thread =>
          match thread.rest.step? t c.state with
          | none => c
          | some (s, rest) =>
              ⟨s, c.threads.set i ⟨thread.request, thread.steps + 1, rest⟩⟩

/-- The crowd after all turns, where at first there is nobody. -/
def run (program : Nat → ι → Activity σ α) (start : σ) (turns : List (Turn ι)) :
    Crowd ι σ α :=
  turns.foldl (turn program) ⟨start, []⟩

variable {program : Nat → ι → Activity σ α} {start : σ}

theorem run_snoc (turns : List (Turn ι)) (last : Turn ι) :
    run program start (turns ++ [last]) = (run program start turns).turn program last := by
  simp [run]

/--
What a turn does to the threads: it adds one, or it replaces one by what is left
of it after a step, or it changes nothing at all.
-/
theorem turn_cases
    (program : Nat → ι → Activity σ α) (c : Crowd ι σ α) (next : Turn ι) :
    (∃ q, next = .arrive q ∧
      c.turn program next =
        { c with threads := c.threads ++ [⟨q, 0, program c.threads.length q⟩] }) ∨
    (∃ i t thread s rest, next = .advance i t ∧
      c.threads[i]? = some thread ∧
      thread.rest.step? t c.state = some (s, rest) ∧
      c.turn program next =
        ⟨s, c.threads.set i ⟨thread.request, thread.steps + 1, rest⟩⟩) ∨
    c.turn program next = c := by
  cases next with
  | arrive q => exact Or.inl ⟨q, rfl, rfl⟩
  | advance i t =>
      right
      cases hthread : c.threads[i]? with
      | none => exact Or.inr (by simp [turn, hthread])
      | some thread =>
          cases hstep : thread.rest.step? t c.state with
          | none => exact Or.inr (by simp [turn, hthread, hstep])
          | some after =>
              obtain ⟨s, rest⟩ := after
              exact Or.inl
                ⟨i, t, thread, s, rest, rfl, hthread, hstep, by
                  simp [turn, hthread, hstep]⟩

/-- The turn of the thread that came last. -/
theorem turn_advance_last
    {s s' : σ} {threads : List (Thread ι σ α)} {thread : Thread ι σ α} {t : Nat}
    {rest : Activity σ α} (hstep : thread.rest.step? t s = some (s', rest)) :
    turn program ⟨s, threads ++ [thread]⟩ (.advance threads.length t) =
      ⟨s', threads ++ [⟨thread.request, thread.steps + 1, rest⟩]⟩ := by
  simp [turn, hstep]

end Crowd

end WalletEvents
