import WalletEvents.Activity

/-!
# Many activities side by side

`Activity.gather` runs activities concurrently on one state: each runs until it pauses, then the next one.
When one breaks off, all of them do.

**Order.** Every activity has a number, and of those that wake at one moment the one with the least number
comes first. A small group is numbered in the order of the list. In a large group an activity takes a new
number whenever it falls asleep, so that those that wake together go on in the order in which they fell
asleep.
-/

namespace WalletEvents

namespace Activity

/-- An activity that wakes after a delay, with its number. -/
structure Sleeper (σ α : Type) where
  number : Nat
  delay : Nat
  rest : Activity σ α

variable {σ α : Type}

namespace Sleeper

/-- Whether the activity has ended. -/
def hasEnded (p : Sleeper σ α) : Bool :=
  match p.rest with
  | .done _ => true
  | _ => false

/-- Whether it is the turn of an activity before that of another one. -/
def precedes (p q : Sleeper σ α) : Bool :=
  !p.hasEnded && (q.hasEnded || p.delay < q.delay || (p.delay == q.delay && p.number < q.number))

/-- The place of the activity whose turn comes first; those that have ended come last. -/
def first? : List (Sleeper σ α) → Option (Nat × Sleeper σ α)
  | [] => none
  | p :: others =>
    match first? others with
    | none => some (0, p)
    | some (i, q) => if q.precedes p then some (i + 1, q) else some (0, p)

/-- The values of the activities that have ended. -/
def values (sleepers : List (Sleeper σ α)) : List α :=
  sleepers.filterMap fun p =>
    match p.rest with
    | .done a => some a
    | _ => none

/-- The time until all are awake. -/
def longestDelay (sleepers : List (Sleeper σ α)) : Nat :=
  sleepers.foldl (fun longest p => max longest p.delay) 0

/-- The activities after a while, with another one at a place. -/
def replaceAfter (sleepers : List (Sleeper σ α)) (milliseconds i : Nat) (p : Sleeper σ α) :
    List (Sleeper σ α) :=
  (sleepers.map fun q => { q with delay := q.delay - milliseconds }).set i p

/-- The activities of a group, where one has taken a step and the others are as they were. -/
inductive Lower : List (Activity σ α) → List (Activity σ α) → Prop
  | head {p q : Activity σ α} (others : List (Activity σ α)) (h : Rest q p) :
      Lower (q :: others) (p :: others)
  | tail {ps qs : List (Activity σ α)} (p : Activity σ α) (h : Lower qs ps) : Lower (p :: qs) (p :: ps)

theorem lower_wellFounded : WellFounded (Lower : List (Activity σ α) → List (Activity σ α) → Prop) := by
  refine ⟨fun ps => ?_⟩
  induction ps with
  | nil => exact ⟨_, fun _ h => nomatch h⟩
  | cons p ps ih =>
    induction rest_wellFounded.apply p generalizing ps with
    | intro p _ ihp =>
      induction ih with
      | intro ps hps ihps =>
        refine ⟨_, fun _ h => ?_⟩
        cases h with
        | head _ h => exact ihp _ h _ ⟨_, hps⟩
        | tail _ h => exact ihps _ h

instance : WellFoundedRelation (List (Activity σ α)) := ⟨Lower, lower_wellFounded⟩

theorem get?_first? {sleepers : List (Sleeper σ α)} {i : Nat} {p : Sleeper σ α}
    (h : first? sleepers = some (i, p)) : sleepers[i]? = some p := by
  induction sleepers generalizing i with
  | nil => simp [first?] at h
  | cons q others ih =>
    unfold first? at h
    split at h
    · cases h
      rfl
    · next hfirst =>
      split at h
      · cases h
        simpa using ih hfirst
      · cases h
        rfl

theorem lower_replaceAfter {sleepers : List (Sleeper σ α)} {i : Nat} {p q : Sleeper σ α} (ms : Nat)
    (h : sleepers[i]? = some p) (hrest : Rest q.rest p.rest) :
    Lower ((replaceAfter sleepers ms i q).map rest) (sleepers.map rest) := by
  induction sleepers generalizing i with
  | nil => simp at h
  | cons r others ih =>
    unfold replaceAfter at ih ⊢
    cases i with
    | zero =>
      obtain rfl : r = p := by simpa using h
      simpa [Function.comp_def] using Lower.head (others.map rest) hrest
    | succ i => simpa using Lower.tail r.rest (ih (by simpa using h))

end Sleeper

/-- Lets time pass before an activity. -/
def after (milliseconds : Nat) (p : Activity σ α) : Activity σ α :=
  if milliseconds = 0 then p else .sleep milliseconds p

/-- Runs activities until all have ended; in a large group, the next one to fall asleep takes the number
`next`. -/
def gatherFrom (large : Bool) (next : Nat) (sleepers : List (Sleeper σ α)) : Activity σ (List α) :=
  match _h : Sleeper.first? sleepers with
  | none => .done []
  | some (i, p) =>
    match _hrest : p.rest with
    | .done _ => after (Sleeper.longestDelay sleepers) <| .done (Sleeper.values sleepers)
    | .crash => after p.delay .crash
    | .act update rest => after p.delay <| .act update fun t s =>
      gatherFrom large next (Sleeper.replaceAfter sleepers p.delay i ⟨p.number, 0, rest t s⟩)
    | .sleep ms rest =>
      let number := if large && 0 < ms then next else p.number
      after p.delay <|
        gatherFrom large (next + 1) (Sleeper.replaceAfter sleepers p.delay i ⟨number, ms, rest⟩)
termination_by sleepers.map Sleeper.rest
decreasing_by
  · exact Sleeper.lower_replaceAfter _ (Sleeper.get?_first? _h) (_hrest ▸ .act ..)
  · exact Sleeper.lower_replaceAfter _ (Sleeper.get?_first? _h) (_hrest ▸ .sleep ..)

/-- The greatest number of activities of a small group. -/
def largestSmallGroup : Nat := 30

/-- All activities side by side; the values come in the order of the list. -/
def gather (group : List (Activity σ α)) : Activity σ (List α) :=
  gatherFrom (largestSmallGroup < group.length) group.length
    (group.mapIdx fun i p => ⟨i, 0, p⟩)

end Activity

end WalletEvents
