/-!
# Activities in virtual time

An activity works on a shared state and pauses. Work takes no time, only pauses do, so an activity is a
tree of steps: each changes the state at the moment it is taken, looks at the state, or lets a number
of milliseconds pass. An activity may also break off for good.

**Side by side.** `Activity.both` runs two activities concurrently on one state: each runs until it pauses,
then the other one. When one breaks off, both do.

**In the background.** `Activity.withBackground` runs activities beside a main one until that one ends.

**Running.** `Activity.run` takes an activity to its end and gives the time and the state there.
-/

namespace WalletEvents

/-- An activity on a state `σ` that ends with a value. -/
inductive Activity (σ α : Type) where
  | done (value : α)
  | crash
  | act (update : Nat → σ → σ) (next : Nat → σ → Activity σ α)
  | sleep (milliseconds : Nat) (next : Activity σ α)

namespace Activity

variable {σ τ α β : Type}

/-- Goes on with another activity where this one ends. -/
def bind (p : Activity σ α) (k : α → Activity σ β) : Activity σ β :=
  match p with
  | .done a => k a
  | .crash => .crash
  | .act update next => .act update fun t s => (next t s).bind k
  | .sleep ms next => .sleep ms (next.bind k)

instance : Monad (Activity σ) where
  pure := .done
  bind := .bind

/-- Changes the state, knowing the time, and gives what was read off it before. -/
def modifyGet (f : Nat → σ → α × σ) : Activity σ α :=
  .act (fun t s => (f t s).2) fun t s => .done (f t s).1

/-- Changes the state, knowing the time. -/
def modify (f : Nat → σ → σ) : Activity σ Unit := .act f fun _ _ => .done ()

/-- Reads the state. -/
def read (f : σ → α) : Activity σ α := .act (fun _ s => s) fun _ s => .done (f s)

/-- Lets time pass. -/
def pause (milliseconds : Nat) : Activity σ Unit := .sleep milliseconds (.done ())

/-- The same activity on a part of a larger state. -/
def zoom (get : τ → σ) (set : σ → τ → τ) : Activity σ α → Activity τ α
  | .done a => .done a
  | .crash => .crash
  | .act update next => .act (fun t s => set (update t (get s)) s) fun t s =>
      (next t (get s)).zoom get set
  | .sleep ms next => .sleep ms (next.zoom get set)

/-- What is left of an activity after one step. -/
inductive Rest : Activity σ α → Activity σ α → Prop
  | act (update : Nat → σ → σ) (next : Nat → σ → Activity σ α) (t : Nat) (s : σ) :
      Rest (next t s) (.act update next)
  | sleep (ms : Nat) (next : Activity σ α) : Rest next (.sleep ms next)

theorem rest_wellFounded : WellFounded (Rest : Activity σ α → Activity σ α → Prop) :=
  ⟨fun p => by
    induction p with
    | done a => exact ⟨_, fun _ h => nomatch h⟩
    | crash => exact ⟨_, fun _ h => nomatch h⟩
    | act update next ih => exact ⟨_, fun _ h => by cases h; exact ih _ _⟩
    | sleep ms next ih => exact ⟨_, fun _ h => by cases h; exact ih⟩⟩

instance : WellFoundedRelation (Activity σ α) := ⟨Rest, rest_wellFounded⟩

/--
Two activities side by side that wake after the given delays. At one moment the left one runs until
it pauses before the right one does.
-/
def both (d : Nat) (p : Activity σ α) (e : Nat) (q : Activity σ β) : Activity σ (α × β) :=
  match d, p, e, q with
  | 0, .done a, e, q => (Activity.sleep e q).bind fun b => .done (a, b)
  | 0, .crash, _, _ => .crash
  | 0, .act update next, e, q => .act update fun t s => both 0 (next t s) e q
  | 0, .sleep ms next, e, q => both ms next e q
  | d + 1, p, 0, .done b => (Activity.sleep (d + 1) p).bind fun a => .done (a, b)
  | _ + 1, _, 0, .crash => .crash
  | d + 1, p, 0, .act update next => .act update fun t s => both (d + 1) p 0 (next t s)
  | d + 1, p, 0, .sleep ms next => both (d + 1) p ms next
  | d + 1, p, e + 1, q =>
    let least := min (d + 1) (e + 1)
    .sleep least (both (d + 1 - least) p (e + 1 - least) q)
termination_by (p, q, d + e)
decreasing_by
  · exact .left _ _ (.act ..)
  · exact .left _ _ (.sleep ..)
  · exact .right _ (.left _ _ (.act ..))
  · exact .right _ (.left _ _ (.sleep ..))
  · exact .right _ (.right _ (by omega))

/-- The same activity, which gives nothing in place of breaking off. -/
def guarded : Activity σ α → Activity σ (Option α)
  | .done a => .done (some a)
  | .crash => .done none
  | .act update next => .act update fun t s => (next t s).guarded
  | .sleep ms next => .sleep ms next.guarded

/--
An activity with another one in its background. At one moment the one in the background runs until it
pauses before the main one does; it is dropped when the main one ends, and may break off by itself.
-/
def alongside (d : Nat) (p : Activity σ Unit) (e : Nat) (q : Activity σ α) : Activity σ α :=
  match d, p, e, q with
  | 0, .done (), e, q => .sleep e q
  | 0, .crash, e, q => .sleep e q
  | 0, .act update next, e, q => .act update fun t s => alongside 0 (next t s) e q
  | 0, .sleep ms next, e, q => alongside ms next e q
  | _ + 1, _, 0, .done a => .done a
  | _ + 1, _, 0, .crash => .crash
  | d + 1, p, 0, .act update next => .act update fun t s => alongside (d + 1) p 0 (next t s)
  | d + 1, p, 0, .sleep ms next => alongside (d + 1) p ms next
  | d + 1, p, e + 1, q =>
    let least := min (d + 1) (e + 1)
    .sleep least (alongside (d + 1 - least) p (e + 1 - least) q)
termination_by (p, q, d + e)
decreasing_by
  · exact .left _ _ (.act ..)
  · exact .left _ _ (.sleep ..)
  · exact .right _ (.left _ _ (.act ..))
  · exact .right _ (.left _ _ (.sleep ..))
  · exact .right _ (.right _ (by omega))

/-- An activity with others in its background, the first of which comes first at every moment. -/
def withBackground (background : List (Activity σ Unit)) (main : Activity σ α) : Activity σ α :=
  background.foldr (fun p q => alongside 0 p 0 q) main

/-- Runs an activity to its end, which has no value when the activity breaks off. -/
def run : Activity σ α → Nat → σ → Option α × Nat × σ
  | .done a, t, s => (some a, t, s)
  | .crash, t, s => (none, t, s)
  | .act update next, t, s => (next t s).run t (update t s)
  | .sleep ms next, t, s => next.run (t + ms) s

end Activity

end WalletEvents
