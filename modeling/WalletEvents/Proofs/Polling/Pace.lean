import Mathlib.Data.List.Chain
import WalletEvents.Polling.Loop
import WalletEvents.Proofs.Polling.Watch

/-!
# The pace of the polling loop

**Input.** A poller with any configuration, whose service and dispatcher take any time and
have any outcomes, and a stop signal. It is raised from outside at some time, before the
loop begins or during a tick or a pause, or by what happens in a tick, or never.

**Output.** The rounds of the loop, which are its ticks one after another, and the time at
which it returns.

**Clocks.** The loop runs on a clock of milliseconds, and its pauses are rounded up to
these. On a clock of nanoseconds they have exactly the lengths of the configuration. The
results hold of both.

**Results.**

* `Poller.exists_loops`: every run of the loop is one of those that `Poller.Loops` allows.
* `Poller.keeps_pace`: when ticks begin, that each of them is a whole one, that none begins
  once the signal is raised, and when the loop returns (`Poller.Paced`).
-/

namespace WalletEvents

variable {ω : Type}

/-- The length of time in nanoseconds. -/
def Duration.nanoseconds (d : Duration) : Nat := d.seconds * 1000000000 + d.nanos

/-- A pause of milliseconds is the shortest one that is not too short. -/
theorem Duration.nanoseconds_le_milliseconds (d : Duration) :
    d.nanoseconds ≤ d.milliseconds * 1000000 ∧
    d.milliseconds * 1000000 < d.nanoseconds + 1000000 := by
  simp only [nanoseconds, milliseconds]
  omega

theorem Activity.le_time_run {σ α : Type} (p : Activity σ α) (t : Nat) (s : σ) :
    t ≤ (p.run t s).2.1 := by
  induction p generalizing t s with
  | done a => exact Nat.le_refl t
  | crash => exact Nat.le_refl t
  | act update next ih => exact ih t s t (update t s)
  | sleep ms next ih => exact Nat.le_trans (Nat.le_add_right t ms) (ih (t + ms) s)

/-- The stop signal is raised from outside at the time. -/
def OutsideStop.raising (time : Nat) : OutsideStop := ⟨time, true⟩

namespace Shared

variable {trigger : Option Nat} {t ms : Nat} {s : Shared ω}

/-- The stop signal is raised at a time, if it is raised from outside at the time of the trigger. -/
def IsRaised (trigger : Option Nat) (t : Nat) (s : Shared ω) : Prop :=
  s.stopped = true ∨ ∃ time ∈ trigger, time ≤ t

theorem isStopped_iff :
    s.isStopped (trigger.map .raising) t = true ↔ s.IsRaised trigger t := by
  cases trigger <;> simp [isStopped, IsRaised, OutsideStop.raising]

theorem isReleased_iff :
    s.isReleased (trigger.map .raising) t = true ↔ s.IsRaised trigger t := by
  cases trigger <;> simp [isReleased, IsRaised, OutsideStop.raising]

/-- A pause is cut short by the stop signal: it is over at once if somebody has raised the signal, and
else at the time of the trigger, unless that has passed already. -/
structure CutShort (trigger : Option Nat) (ms t : Nat) (s : Shared ω) (t' : Nat) : Prop where
  le : t' ≤ t + ms
  raised : s.IsRaised trigger t'
  of_stopped : s.stopped = true → t' = t
  of_trigger : s.stopped = false → ∃ time ∈ trigger, t' = max time t

theorem run_stopRequested (moment : StopMoment) :
    (stopRequested moment).run t s = (some (s.isStopped moment t), t, s) := rfl

theorem run_pauseUnlessStopped_of_raised (h : s.IsRaised trigger t) (time : Nat) :
    (pauseUnlessStopped (trigger.map .raising) time).run t s = (some true, t, s) := by
  have hreleased := isReleased_iff.mpr h
  cases time with
  | zero => simp [pauseUnlessStopped, released, Activity.modifyGet, Activity.run, hreleased]
  | succ time =>
      simp [pauseUnlessStopped, released, Activity.bind_eq, Activity.modifyGet, Activity.run,
        hreleased]
      rfl

theorem run_pauseUnlessStopped_succ (h : ¬ s.IsRaised trigger t) (time : Nat) :
    (pauseUnlessStopped (trigger.map .raising) (time + 1)).run t s =
      (pauseUnlessStopped (trigger.map .raising) time).run (t + 1) s := by
  have hreleased := isReleased_iff.not.mpr h
  simp [pauseUnlessStopped, released, Activity.bind_eq, Activity.modifyGet, Activity.pause,
    Activity.run, hreleased]

theorem CutShort.of_now (h : s.IsRaised trigger t) (time : Nat) :
    CutShort trigger time t s t := by
  refine ⟨Nat.le_add_right t time, h, fun _ => rfl, fun hstopped => ?_⟩
  obtain ⟨moment, hmem, hle⟩ := h.resolve_left (by simp [hstopped])
  exact ⟨moment, hmem, (Nat.max_eq_right hle).symm⟩

theorem CutShort.of_later
    {time t' : Nat} (hnot : ¬ s.IsRaised trigger t) (h : CutShort trigger time (t + 1) s t') :
    CutShort trigger (time + 1) t s t' := by
  obtain ⟨hstopped, hlater⟩ := not_or.mp hnot
  refine ⟨by have hle := h.le; omega, h.raised, fun hs => absurd hs hstopped, fun hs => ?_⟩
  obtain ⟨moment, hmem, rfl⟩ := h.of_trigger hs
  have hlt : t < moment := Nat.lt_of_not_le fun hle => hlater ⟨moment, hmem, hle⟩
  exact ⟨moment, hmem, by omega⟩

/-- **A pause** is cut short by the stop signal, or it has its full length and the signal is not raised
when it is over. -/
theorem run_pauseUnlessStopped (trigger : Option Nat) (time t : Nat) (s : Shared ω) :
    (∃ t', (pauseUnlessStopped (trigger.map .raising) time).run t s = (some true, t', s) ∧
      CutShort trigger time t s t') ∨
    ((pauseUnlessStopped (trigger.map .raising) time).run t s = (some false, t + time, s) ∧
      ¬ s.IsRaised trigger (t + time)) := by
  by_cases hnow : s.IsRaised trigger t
  · exact .inl ⟨t, run_pauseUnlessStopped_of_raised hnow time, .of_now hnow time⟩
  induction time generalizing t with
  | zero =>
      have hreleased := isReleased_iff.not.mpr hnow
      refine .inr ⟨?_, hnow⟩
      simp [pauseUnlessStopped, released, Activity.modifyGet, Activity.run, hreleased]
  | succ time ih =>
      rw [run_pauseUnlessStopped_succ hnow]
      by_cases hnext : s.IsRaised trigger (t + 1)
      · exact .inl ⟨t + 1, run_pauseUnlessStopped_of_raised hnext time,
          .of_later hnow (.of_now hnext time)⟩
      · rcases ih (t + 1) hnext with ⟨t', hrun, hcut⟩ | ⟨hrun, hfull⟩
        · exact .inl ⟨t', hrun, .of_later hnow hcut⟩
        · rw [Nat.succ_add_eq_add_succ] at hrun hfull
          exact .inr ⟨hrun, hfull⟩

end Shared

/-- Where a loop has come to: what is remembered, the time and the state. -/
structure LoopState (ω : Type) where
  poll : PollState
  time : Nat
  shared : Shared ω

/-- A tick in a loop. -/
structure Round (ω : Type) where
  start : LoopState ω
  result : Except Failure TickReport
  finish : LoopState ω

/-- The stop signal is raised where the loop has come to. -/
def LoopState.IsRaised (trigger : Option Nat) (c : LoopState ω) : Prop :=
  c.shared.IsRaised trigger c.time

namespace Poller

/-- How long the configuration asks to wait after a tick. -/
def timeout (config : PollingConfig) : Except Failure TickReport → Duration
  | .ok _ => config.refetchTimeout
  | .error _ => config.backoffTimeout

/-- Runs ticks like the loop, on a clock that gives durations this length. -/
def runOn (length : Duration → Nat) (p : Poller (Shared ω)) (moment : StopMoment) :
    Nat → PollState → Activity (Shared ω) Bool
  | 0, _ => Shared.stopRequested moment
  | ticks + 1, s => do
    if ← Shared.stopRequested moment then return true
    let (result, s) ← p.tick s
    if ← Shared.pauseUnlessStopped moment (length (timeout p.config result)) then return true
    p.runOn length moment ticks s

/-- The loop runs on a clock of milliseconds. -/
theorem run_eq_runOn (p : Poller (Shared ω)) (moment : StopMoment) (n : Nat) (st : PollState) :
    p.run moment n st = p.runOn Duration.milliseconds moment n st := by
  have hpause : ∀ result,
      pauseAfter p.config result = (timeout p.config result).milliseconds := by
    intro result
    cases result <;> rfl
  induction n generalizing st with
  | zero => rfl
  | succ n ih => simp only [run, runOn, hpause, ih]

variable {p : Poller (Shared ω)} {length : Duration → Nat} {trigger : Option Nat} {n : Nat}
variable {c : LoopState ω} {r : Round ω} {rounds : List (Round ω)}
variable {out : Option Bool × Nat × Shared ω}

/-- The tick of a round runs as it does without a loop around it. -/
def Makes (p : Poller (Shared ω)) (r : Round ω) : Prop :=
  (p.tick r.start.poll).run r.start.time r.start.shared =
    (some (r.result, r.finish.poll), r.finish.time, r.finish.shared)

/-- The length of the pause after a round. -/
def pauseLength (length : Duration → Nat) (p : Poller (Shared ω)) (r : Round ω) : Nat :=
  length (timeout p.config r.result)

/-- Where the loop goes on when the pause after a round is over. -/
def wake (length : Duration → Nat) (p : Poller (Shared ω)) (r : Round ω) : LoopState ω :=
  { r.finish with time := r.finish.time + p.pauseLength length r }

/-- Where the loop has come to after some rounds. -/
def reached (length : Duration → Nat) (p : Poller (Shared ω)) (start : LoopState ω)
    (rounds : List (Round ω)) : LoopState ω :=
  rounds.foldl (fun _ r => p.wake length r) start

/-- The runs of the loop: where it begins, its rounds, and what it ends with. -/
inductive Loops (length : Duration → Nat) (p : Poller (Shared ω)) (trigger : Option Nat) :
    Nat → LoopState ω → List (Round ω) → Option Bool × Nat × Shared ω → Prop
  /-- All ticks have been made. -/
  | spent
      {c : LoopState ω} {ended : Bool} (hended : ended = true ↔ c.IsRaised trigger) :
      Loops length p trigger 0 c [] (some ended, c.time, c.shared)
  | raised
      {n : Nat} {c : LoopState ω} (hraised : c.IsRaised trigger) :
      Loops length p trigger (n + 1) c [] (some true, c.time, c.shared)
  /-- A tick breaks off. -/
  | broken
      {n : Nat} {c : LoopState ω} {t' : Nat} {s' : Shared ω} (hstart : ¬ c.IsRaised trigger)
      (htick : (p.tick c.poll).run c.time c.shared = (none, t', s')) :
      Loops length p trigger (n + 1) c [] (none, t', s')
  /-- The pause after a tick is cut short. -/
  | last
      {n : Nat} {r : Round ω} {t' : Nat} (hstart : ¬ r.start.IsRaised trigger) (htick : p.Makes r)
      (hcut : Shared.CutShort trigger (p.pauseLength length r) r.finish.time r.finish.shared t') :
      Loops length p trigger (n + 1) r.start [r] (some true, t', r.finish.shared)
  | next
      {n : Nat} {r : Round ω} {rounds : List (Round ω)} {out : Option Bool × Nat × Shared ω}
      (hstart : ¬ r.start.IsRaised trigger) (htick : p.Makes r)
      (hpause : ¬ (p.wake length r).IsRaised trigger)
      (hrest : Loops length p trigger n (p.wake length r) rounds out) :
      Loops length p trigger (n + 1) r.start (r :: rounds) out

/-- **Every run of the loop** is one of these runs. -/
theorem exists_loops (length : Duration → Nat) (p : Poller (Shared ω)) (trigger : Option Nat)
    (n : Nat) (c : LoopState ω) :
    ∃ rounds, p.Loops length trigger n c rounds
      ((p.runOn length (trigger.map .raising) n c.poll).run c.time c.shared) := by
  induction n generalizing c with
  | zero => exact ⟨[], .spent Shared.isStopped_iff⟩
  | succ n ih =>
      rw [runOn, Activity.bind_eq, Activity.run_bind, Shared.run_stopRequested]
      by_cases hraised : c.IsRaised trigger
      · rw [Shared.isStopped_iff.mpr hraised]
        exact ⟨[], .raised hraised⟩
      rw [Bool.eq_false_iff.mpr (Shared.isStopped_iff.not.mpr hraised)]
      simp only [Bool.false_eq_true, if_false, Activity.bind_eq, Activity.run_bind]
      rcases htick : (p.tick c.poll).run c.time c.shared with ⟨value, t₁, s₁⟩
      cases value with
      | none => exact ⟨[], .broken hraised htick⟩
      | some value =>
          obtain ⟨result, st₁⟩ := value
          let r : Round ω := ⟨c, result, ⟨st₁, t₁, s₁⟩⟩
          have hmakes : p.Makes r := htick
          have hlength : length (timeout p.config result) = p.pauseLength length r := rfl
          simp only [hlength]
          rcases Shared.run_pauseUnlessStopped trigger (p.pauseLength length r) t₁ s₁ with
            ⟨t₂, hrun, hcut⟩ | ⟨hrun, hpause⟩
          · rw [hrun]
            exact ⟨[r], .last hraised hmakes hcut⟩
          · rw [hrun]
            obtain ⟨rounds, hrest⟩ := ih (p.wake length r)
            exact ⟨r :: rounds, .next hraised hmakes hpause hrest⟩

/-- A tick from its beginning to its end: the service fails, or it answers with a page, and the new
payments of the page are handed to the dispatcher, which brings them all to their end. -/
inductive IsWhole (p : Poller (Shared ω)) (r : Round ω) : Prop
  | failed
      {failure : Failure}
      (hhistory : (p.service.history (query p.config (p.clock r.start.time) r.start.poll)).run
        r.start.time r.start.shared =
          (some (.error failure), r.finish.time, r.finish.shared))
      (hresult : (r.result, r.finish.poll) = (.error failure, r.start.poll))
  | handed
      {page : List Transaction} {plan : TickPlan} {ended : Except DispatchError Unit} {t : Nat}
      {s : Shared ω}
      (hhistory : (p.service.history (query p.config (p.clock r.start.time) r.start.poll)).run
        r.start.time r.start.shared = (some (.ok page), t, s))
      (hplan : plan? p.config r.start.poll page = some plan)
      (hfeed : (p.dispatcher.feedEvents (plan.batch.map .transaction)).run t s =
        (some ended, r.finish.time, r.finish.shared))
      (hresult : (r.result, r.finish.poll) = settle plan ended)

theorem Makes.isWhole (h : p.Makes r) : p.IsWhole r := by
  have hnow : p.now.run r.start.time r.start.shared =
      (some (p.clock r.start.time), r.start.time, r.start.shared) := rfl
  rw [Makes, tick] at h
  rcases hhistory : (p.service.history (query p.config (p.clock r.start.time) r.start.poll)).run
    r.start.time r.start.shared with ⟨answer, t, s⟩
  cases answer with
  | none =>
      rw [run_tickWith_stuck hnow hhistory] at h
      cases h
  | some answer =>
      cases answer with
      | error failure =>
          rw [run_tickWith_failed hnow hhistory] at h
          obtain ⟨hresult, htime, hshared⟩ : (.error failure, r.start.poll) =
              (r.result, r.finish.poll) ∧ t = r.finish.time ∧ s = r.finish.shared := by
            simpa using h
          rw [htime, hshared] at hhistory
          exact .failed hhistory hresult.symm
      | ok page =>
          cases hplan : plan? p.config r.start.poll page with
          | none =>
              rw [run_tickWith_broken hnow hhistory hplan] at h
              cases h
          | some plan =>
              rw [run_tickWith_handed hnow hhistory hplan] at h
              rcases hfeed : (p.dispatcher.feedEvents (plan.batch.map .transaction)).run t s with
                ⟨ended, t', s'⟩
              rw [hfeed] at h
              cases ended with
              | none => cases h
              | some ended =>
                  obtain ⟨hresult, htime, hshared⟩ : settle plan ended =
                      (r.result, r.finish.poll) ∧ t' = r.finish.time ∧ s' = r.finish.shared := by
                    simpa using h
                  rw [htime, hshared] at hfeed
                  exact .handed hhistory hplan hfeed hresult.symm

theorem Makes.le_time (h : p.Makes r) : r.start.time ≤ r.finish.time := by
  have hle := Activity.le_time_run (p.tick r.start.poll) r.start.time r.start.shared
  rwa [h] at hle

/-- The pace of a run of the loop. -/
structure Paced (length : Duration → Nat) (p : Poller (Shared ω)) (trigger : Option Nat) (n : Nat)
    (start : LoopState ω) (rounds : List (Round ω)) (out : Option Bool × Nat × Shared ω) : Prop where
  /-- The first tick begins at once. -/
  first : ∀ r ∈ rounds.head?, r.start = start
  /-- Each next tick begins when the pause after the one before is over. -/
  next : rounds.IsChain fun r r' => r'.start = p.wake length r
  whole : ∀ r ∈ rounds, p.Makes r ∧ p.IsWhole r ∧ r.start.time ≤ r.finish.time
  /-- No tick begins when the signal is raised already. -/
  before_stop : ∀ r ∈ rounds, ¬ r.start.IsRaised trigger
  already : start.IsRaised trigger → rounds = [] ∧ out = (some true, start.time, start.shared)
  /-- The loop returns only when the signal is raised. -/
  raised : out.1 = some true → out.2.2.IsRaised trigger out.2.1
  at_once : out.1 = some true → rounds = [] → start.IsRaised trigger
  /-- It returns at the end of the last tick or when the signal is raised, whichever is later, and
  does not wait out the pause. -/
  returned : out.1 = some true → ∀ r ∈ rounds.getLast?, out.2.2 = r.finish.shared ∧
    Shared.CutShort trigger (p.pauseLength length r) r.finish.time r.finish.shared out.2.1
  /-- If it has not returned, it has made all its ticks and the signal is not raised. -/
  unfinished : out.1 = some false → rounds.length = n ∧
    ¬ (p.reached length start rounds).IsRaised trigger ∧
    out.2 = ((p.reached length start rounds).time, (p.reached length start rounds).shared)
  /-- It returns within sufficiently many ticks, if they come to their ends and each of them takes some
  time with its pause. -/
  returns : (∀ c : LoopState ω, ((p.tick c.poll).run c.time c.shared).1 ≠ none) →
    ∀ time ∈ trigger, ∀ least, (∀ r ∈ rounds, r.start.time + least ≤ (p.wake length r).time) →
    time ≤ start.time + n * least → out.1 = some true
  /-- Only a tick that breaks off ends the loop in another way. -/
  broken : out.1 = none → rounds.length < n ∧
    ¬ (p.reached length start rounds).IsRaised trigger ∧
    (p.tick (p.reached length start rounds).poll).run (p.reached length start rounds).time
      (p.reached length start rounds).shared = (none, out.2)

theorem Loops.paced (h : p.Loops length trigger n c rounds out) :
    p.Paced length trigger n c rounds out := by
  induction h with
  | @spent c ended hended =>
      exact {
        first := by simp
        next := .nil
        whole := by simp
        before_stop := by simp
        already := fun hraised => ⟨rfl, by rw [hended.mpr hraised]⟩
        raised := fun h => hended.mp (Option.some.inj h)
        at_once := fun h _ => hended.mp (Option.some.inj h)
        returned := by simp
        unfinished := fun h => by
          refine ⟨rfl, fun hraised => ?_, rfl⟩
          cases (hended.mpr hraised).symm.trans (Option.some.inj h)
        returns := fun _ time hmem least _ hle =>
          congrArg some (hended.mpr (.inr ⟨time, hmem, by simpa using hle⟩))
        broken := nofun }
  | @raised n c hraised =>
      exact {
        first := by simp
        next := .nil
        whole := by simp
        before_stop := by simp
        already := fun _ => ⟨rfl, rfl⟩
        raised := fun _ => hraised
        at_once := fun _ _ => hraised
        returned := by simp
        unfinished := nofun
        returns := fun _ _ _ _ _ _ => rfl
        broken := nofun }
  | @broken n c t' s' hstart htick =>
      exact {
        first := by simp
        next := .nil
        whole := by simp
        before_stop := by simp
        already := fun hraised => absurd hraised hstart
        raised := nofun
        at_once := nofun
        returned := by simp
        unfinished := nofun
        returns := fun hends => absurd (congrArg Prod.fst htick) (hends c)
        broken := fun _ => ⟨Nat.zero_lt_succ n, hstart, htick⟩ }
  | @last n r t' hstart htick hcut =>
      exact {
        first := by simp
        next := .singleton r
        whole := by simpa using ⟨htick, htick.isWhole, htick.le_time⟩
        before_stop := by simpa using hstart
        already := fun hraised => absurd hraised hstart
        raised := fun _ => hcut.raised
        at_once := nofun
        returned := by simpa using hcut
        unfinished := nofun
        returns := fun _ _ _ _ _ _ => rfl
        broken := nofun }
  | @next n r rounds out hstart htick hpause hrest ih =>
      exact {
        first := by simp
        next := List.isChain_cons.mpr ⟨ih.first, ih.next⟩
        whole := List.forall_mem_cons.mpr ⟨⟨htick, htick.isWhole, htick.le_time⟩, ih.whole⟩
        before_stop := List.forall_mem_cons.mpr ⟨hstart, ih.before_stop⟩
        already := fun hraised => absurd hraised hstart
        raised := ih.raised
        at_once := nofun
        returned := fun h => by
          cases rounds with
          | nil => exact absurd (ih.at_once h rfl) hpause
          | cons second rest => simpa using ih.returned h
        unfinished := fun h => by
          obtain ⟨hlength, hreached⟩ := ih.unfinished h
          exact ⟨congrArg Nat.succ hlength, hreached⟩
        returns := fun hends time hmem least hleast hle => by
          obtain ⟨hfirst, hlater⟩ := List.forall_mem_cons.mp hleast
          refine ih.returns hends time hmem least hlater ?_
          rw [Nat.succ_mul] at hle
          omega
        broken := fun h => by
          obtain ⟨hlength, hreached⟩ := ih.broken h
          exact ⟨Nat.succ_lt_succ hlength, hreached⟩ }

/-- **The loop keeps its pace** and stops cleanly, whatever its ticks come to and whenever the stop signal
is raised. On its clock of milliseconds pauses are rounded up; on a clock of nanoseconds they have
exactly the lengths of the configuration. -/
theorem keeps_pace (p : Poller (Shared ω)) (trigger : Option Nat) (n : Nat) (start : LoopState ω) :
    (∃ rounds, p.Paced Duration.milliseconds trigger n start rounds
      ((p.run (trigger.map .raising) n start.poll).run start.time start.shared)) ∧
    ∃ rounds, p.Paced Duration.nanoseconds trigger n start rounds
      ((p.runOn Duration.nanoseconds (trigger.map .raising) n start.poll).run
        start.time start.shared) := by
  have hpaced : ∀ length, ∃ rounds, p.Paced length trigger n start rounds
      ((p.runOn length (trigger.map .raising) n start.poll).run start.time start.shared) := by
    intro length
    obtain ⟨rounds, hloops⟩ := p.exists_loops length trigger n start
    exact ⟨rounds, hloops.paced⟩
  rw [run_eq_runOn]
  exact ⟨hpaced Duration.milliseconds, hpaced Duration.nanoseconds⟩

end Poller

end WalletEvents
