import WalletEvents.Polling.Poller
import WalletEvents.Proofs.Activity.Steps

/-!
# Ticks under observation

A poller is observed by what it asks the history, what it is answered, and what
it hands to its dispatcher. `Poller.watchedTick` is a tick that notes this down;
apart from the notes it is the tick itself, as `run_watchedTick` says.

**Input.** Any number of ticks one after another. Each begins at any time and in
any world, so between two ticks, and during a tick by way of the history and of
the handlers, anything may happen to the world.

**Output.** A record of every tick. After a tick that has broken off there are
no more.

`Poller.follows_ticks` describes all lists of records that there can be. What
is said of them elsewhere is proved by induction on that description.
-/

namespace WalletEvents

variable {σ : Type}

/-- What a poller has asked and was answered, or what it has handed to its dispatcher. -/
inductive TickCall where
  | fetched (query : HistoryQuery) (answer : Except Failure (List Transaction))
  | handed (events : List Event)

/-- The transaction that an event tells of. -/
def Event.transaction? : Event → Option Transaction
  | .transaction t => some t
  | .notice _ => none
  | .bill _ => none
  | .fault _ _ => none

namespace TickCall

/-- The transactions that are handed over. -/
def transactions : TickCall → List Transaction
  | .fetched _ _ => []
  | .handed events => events.filterMap Event.transaction?

@[simp] theorem transactions_fetched
    (query : HistoryQuery) (answer : Except Failure (List Transaction)) :
    (TickCall.fetched query answer).transactions = [] := by
  rw [transactions]

@[simp] theorem transactions_handed (batch : List Transaction) :
    (TickCall.handed (batch.map .transaction)).transactions = batch := by
  rw [transactions, List.filterMap_map]
  exact List.filterMap_some

end TickCall

/-- A world with the calls that were made in it. -/
structure Watched (σ : Type) where
  calls : List TickCall
  world : σ

namespace Watched

/-- The world with one more call. -/
def note (call : TickCall) (w : Watched σ) : Watched σ := { w with calls := w.calls ++ [call] }

/-- An activity of the world that makes no calls. -/
def within {α : Type} (p : Activity σ α) : Activity (Watched σ) α :=
  p.zoom Watched.world fun world w => { w with world := world }

theorem run_within {α : Type} (p : Activity σ α) (t : Nat) (w : Watched σ) :
    (within p).run t w =
      ((p.run t w.world).1, (p.run t w.world).2.1, { w with world := (p.run t w.world).2.2 }) :=
  Activity.run_zoom (by simp) (by simp) (by simp) p t w

/-- An activity of the world whose value is noted down as a call. -/
def noting {α : Type} (call : α → TickCall) (p : Activity σ α) : Activity (Watched σ) α :=
  (within p).bind fun a => .act (fun _ w => w.note (call a)) fun _ _ => .done a

theorem run_noting_none
    {α : Type} (call : α → TickCall) {p : Activity σ α} {t t' : Nat} {w : Watched σ} {world' : σ}
    (h : p.run t w.world = (none, t', world')) :
    (noting call p).run t w = (none, t', { w with world := world' }) := by
  rw [noting, Activity.run_bind, run_within, h]

theorem run_noting_some
    {α : Type} (call : α → TickCall) {p : Activity σ α} {t t' : Nat} {w : Watched σ} {world' : σ}
    {a : α} (h : p.run t w.world = (some a, t', world')) :
    (noting call p).run t w = (some a, t', ⟨w.calls ++ [call a], world'⟩) := by
  rw [noting, Activity.run_bind, run_within, h]
  rfl

end Watched

namespace Poller

section Run

variable {config : PollingConfig} {now : Activity σ Instant} {instant : Instant}
variable {history : HistoryQuery → Activity σ (Except Failure (List Transaction))}
variable {feed : List Event → Activity σ (Except DispatchError Unit)}
variable {s : PollState} {t t' : Nat} {w w' : σ} {page : List Transaction}

theorem run_tickWith_stuck
    (hnow : now.run t w = (some instant, t, w))
    (hhistory : (history (query config instant s)).run t w = (none, t', w')) :
    (tickWith config now history feed s).run t w = (none, t', w') := by
  simp only [tickWith, Activity.bind_eq, Activity.run_bind, hnow, hhistory]

theorem run_tickWith_failed
    {failure : Failure} (hnow : now.run t w = (some instant, t, w))
    (hhistory : (history (query config instant s)).run t w = (some (.error failure), t', w')) :
    (tickWith config now history feed s).run t w = (some (.error failure, s), t', w') := by
  simp only [tickWith, Activity.bind_eq, Activity.run_bind, hnow, hhistory]
  rfl

theorem run_tickWith_broken
    (hnow : now.run t w = (some instant, t, w))
    (hhistory : (history (query config instant s)).run t w = (some (.ok page), t', w'))
    (hplan : plan? config s page = none) :
    (tickWith config now history feed s).run t w = (none, t', w') := by
  simp only [tickWith, Activity.bind_eq, Activity.run_bind, hnow, hhistory, hplan]
  rfl

theorem run_tickWith_handed
    {plan : TickPlan} (hnow : now.run t w = (some instant, t, w))
    (hhistory : (history (query config instant s)).run t w = (some (.ok page), t', w'))
    (hplan : plan? config s page = some plan) :
    (tickWith config now history feed s).run t w =
      (((feed (plan.batch.map .transaction)).run t' w').1.map (settle plan),
        ((feed (plan.batch.map .transaction)).run t' w').2) := by
  simp only [tickWith, Activity.bind_eq, Activity.run_bind, hnow, hhistory, hplan]
  rcases (feed (plan.batch.map .transaction)).run t' w' with ⟨result, t'', w''⟩
  cases result with
  | none => rfl
  | some result => rfl

end Run

/-- A tick that notes down its calls. -/
def watchedTick (p : Poller σ) (s : PollState) :
    Activity (Watched σ) (Except Failure TickReport × PollState) :=
  tickWith p.config (Watched.within p.now)
    (fun query => Watched.noting (.fetched query) (p.service.history query))
    (fun events => .act (fun _ w => w.note (.handed events)) fun _ _ =>
      Watched.within (p.dispatcher.feedEvents events))
    s

/-- The calls of a tick and what it gives, from one state on. -/
inductive TickOutcome (config : PollingConfig) (s : PollState) :
    List TickCall → Option (Except Failure TickReport × PollState) → Prop
  | stuck :
      TickOutcome config s [] none
  | failed (now : Instant) (failure : Failure) :
      TickOutcome config s [.fetched (query config now s) (.error failure)]
        (some (.error failure, s))
  | broken (now : Instant) {page : List Transaction} (hplan : plan? config s page = none) :
      TickOutcome config s [.fetched (query config now s) (.ok page)] none
  | handed (now : Instant) {page : List Transaction} {plan : TickPlan}
      (hplan : plan? config s page = some plan) (result : Option (Except DispatchError Unit)) :
      TickOutcome config s
        [.fetched (query config now s) (.ok page), .handed (plan.batch.map .transaction)]
        (result.map (settle plan))

/-- A tick that has ended was answered with a failure, or has handed over the batch of its page. -/
theorem TickOutcome.ended_inv
    {config : PollingConfig} {s s' : PollState} {calls : List TickCall}
    {result : Except Failure TickReport} (h : TickOutcome config s calls (some (result, s'))) :
    (∃ now failure,
      calls = [.fetched (query config now s) (.error failure)] ∧
      result = .error failure ∧ s' = s) ∨
    (∃ now page plan ended,
      plan? config s page = some plan ∧
      calls = [.fetched (query config now s) (.ok page), .handed (plan.batch.map .transaction)] ∧
      (result, s') = settle plan ended) := by
  generalize hvalue : some (result, s') = value at h
  cases h with
  | stuck => cases hvalue
  | failed now failure =>
      cases hvalue
      exact .inl ⟨now, failure, rfl, rfl, rfl⟩
  | broken now hplan => cases hvalue
  | handed now hplan ended =>
      cases ended with
      | none => cases hvalue
      | some ended => exact .inr ⟨now, _, _, ended, hplan, rfl, Option.some.inj hvalue⟩

theorem run_watchedTick_handed
    {p : Poller σ} {s : PollState} {t t' : Nat} {w : Watched σ} {world' : σ}
    {page : List Transaction} {plan : TickPlan}
    (hhistory : (p.service.history (query p.config (p.clock t) s)).run t w.world =
      (some (.ok page), t', world'))
    (hplan : plan? p.config s page = some plan) :
    (p.watchedTick s).run t w =
      (((p.dispatcher.feedEvents (plan.batch.map .transaction)).run t' world').1.map (settle plan),
        ((p.dispatcher.feedEvents (plan.batch.map .transaction)).run t' world').2.1,
        ⟨w.calls ++ [.fetched (query p.config (p.clock t) s) (.ok page),
            .handed (plan.batch.map .transaction)],
          ((p.dispatcher.feedEvents (plan.batch.map .transaction)).run t' world').2.2⟩) := by
  have hnow : (Watched.within p.now).run t w = (some (p.clock t), t, w) := rfl
  have hnoted := Watched.run_noting_some (.fetched (query p.config (p.clock t) s)) hhistory
  rw [watchedTick, run_tickWith_handed hnow hnoted hplan]
  simp [Activity.run, Watched.run_within, Watched.note]

/-- **A tick that notes down its calls** runs like the tick itself, apart from the calls. -/
theorem run_watchedTick (p : Poller σ) (s : PollState) (t : Nat) (w : Watched σ) :
    ∃ calls,
      (p.watchedTick s).run t w =
        (((p.tick s).run t w.world).1, ((p.tick s).run t w.world).2.1,
          ⟨w.calls ++ calls, ((p.tick s).run t w.world).2.2⟩) ∧
      TickOutcome p.config s calls ((p.tick s).run t w.world).1 := by
  have hnow : p.now.run t w.world = (some (p.clock t), t, w.world) := rfl
  have hnow' : (Watched.within p.now).run t w = (some (p.clock t), t, w) := rfl
  rcases hhistory : (p.service.history (query p.config (p.clock t) s)).run t w.world with
    ⟨answer, t', world'⟩
  cases answer with
  | none =>
      rw [watchedTick, tick, run_tickWith_stuck hnow hhistory,
        run_tickWith_stuck hnow' (Watched.run_noting_none _ hhistory)]
      exact ⟨[], by simp, .stuck⟩
  | some answer =>
      have hhistory' := Watched.run_noting_some (.fetched (query p.config (p.clock t) s)) hhistory
      cases answer with
      | error failure =>
          rw [watchedTick, tick, run_tickWith_failed hnow hhistory,
            run_tickWith_failed hnow' hhistory']
          exact ⟨_, rfl, .failed (p.clock t) failure⟩
      | ok page =>
          cases hplan : plan? p.config s page with
          | none =>
              rw [watchedTick, tick, run_tickWith_broken hnow hhistory hplan,
                run_tickWith_broken hnow' hhistory' hplan]
              exact ⟨_, rfl, .broken (p.clock t) hplan⟩
          | some plan =>
              rw [run_watchedTick_handed hhistory hplan, tick,
                run_tickWith_handed hnow hhistory hplan]
              exact ⟨_, rfl, .handed (p.clock t) hplan _⟩

end Poller

/-- What is known of a tick when it is over. -/
structure TickRecord where
  before : PollState
  calls : List TickCall
  /-- What the tick gave; nothing if it broke off. -/
  value : Option (Except Failure TickReport × PollState)

namespace TickRecord

/-- What is remembered after the tick. -/
def after (r : TickRecord) : PollState :=
  match r.value with
  | none => r.before
  | some (_, s) => s

/-- The transactions that the tick handed to the dispatcher. -/
def dispatched (r : TickRecord) : List Transaction := r.calls.flatMap TickCall.transactions

/-- The tick was answered with a page. -/
def Fetched (r : TickRecord) : Prop :=
  ∃ query page, .fetched query (.ok page) ∈ r.calls

/-- The tick ended, and without a failure. -/
def Succeeded (r : TickRecord) : Prop := ∃ report s, r.value = some (.ok report, s)

end TickRecord

namespace Poller

/-- Ticks one after another, each at a time and in a world of its own. -/
def ticks (p : Poller σ) (s : PollState) : List (Nat × σ) → List TickRecord
  | [] => []
  | (t, world) :: starts =>
    let calls := ((p.watchedTick s).run t ⟨[], world⟩).2.2.calls
    match ((p.tick s).run t world).1 with
    | none => [⟨s, calls, none⟩]
    | some (result, s') => ⟨s, calls, some (result, s')⟩ :: p.ticks s' starts

/-- A tick whose page came and whose handlers all ended. -/
theorem ticks_cons_handed
    {p : Poller σ} {s : PollState} {t t' t'' : Nat} {w w' w'' : σ} {page : List Transaction}
    {plan : TickPlan} {ended : Except DispatchError Unit}
    (hhistory : (p.service.history (query p.config (p.clock t) s)).run t w =
      (some (.ok page), t', w'))
    (hplan : plan? p.config s page = some plan)
    (hfeed : (p.dispatcher.feedEvents (plan.batch.map .transaction)).run t' w' =
      (some ended, t'', w''))
    (starts : List (Nat × σ)) :
    p.ticks s ((t, w) :: starts) =
      ⟨s, [.fetched (query p.config (p.clock t) s) (.ok page),
          .handed (plan.batch.map .transaction)], some (settle plan ended)⟩ ::
        p.ticks (settle plan ended).2 starts := by
  have hnow : p.now.run t w = (some (p.clock t), t, w) := rfl
  rw [ticks, run_watchedTick_handed hhistory hplan, tick,
    run_tickWith_handed hnow hhistory hplan, hfeed]
  rfl

/-- Records that follow one another from a state on. -/
inductive Follows (config : PollingConfig) : PollState → List TickRecord → Prop
  | nil (s : PollState) : Follows config s []
  | last {s : PollState} {calls : List TickCall}
      (houtcome : TickOutcome config s calls none) :
      Follows config s [⟨s, calls, none⟩]
  | cons {s s' : PollState} {calls : List TickCall} {result : Except Failure TickReport}
      {records : List TickRecord}
      (houtcome : TickOutcome config s calls (some (result, s')))
      (hrecords : Follows config s' records) :
      Follows config s (⟨s, calls, some (result, s')⟩ :: records)

/-- **The records of ticks** one after another follow one another. -/
theorem follows_ticks (p : Poller σ) (s : PollState) (starts : List (Nat × σ)) :
    Follows p.config s (p.ticks s starts) := by
  induction starts generalizing s with
  | nil => exact .nil s
  | cons start starts ih =>
      obtain ⟨t, world⟩ := start
      obtain ⟨calls, hrun, houtcome⟩ := run_watchedTick p s t ⟨[], world⟩
      have hcalls : ((p.watchedTick s).run t ⟨[], world⟩).2.2.calls = calls := by
        rw [hrun]
        rfl
      rw [ticks, hcalls]
      rcases hvalue : ((p.tick s).run t world).1 with _ | ⟨result, s'⟩
      · exact .last (hvalue ▸ houtcome)
      · exact .cons (hvalue ▸ houtcome) (ih s')

namespace Follows

variable {config : PollingConfig} {s : PollState} {records : List TickRecord}

theorem outcome (h : Follows config s records) :
    ∀ r ∈ records, TickOutcome config r.before r.calls r.value := by
  induction h with
  | nil s => simp
  | last houtcome => simpa using houtcome
  | cons houtcome hrecords ih =>
      intro r hr
      rcases List.mem_cons.mp hr with rfl | hr
      · exact houtcome
      · exact ih r hr

theorem before_zero (h : Follows config s records) {r : TickRecord} (hr : records[0]? = some r) :
    r.before = s := by
  cases h with
  | nil => simp at hr
  | last houtcome => cases hr; rfl
  | cons houtcome hrecords => cases hr; rfl

/-- A tick that is followed by another one has ended, and the other one begins where it ended. -/
theorem value_of_succ
    (h : Follows config s records) {k : Nat} {r r' : TickRecord}
    (hr : records[k]? = some r) (hr' : records[k + 1]? = some r') :
    ∃ result, r.value = some (result, r'.before) := by
  induction h generalizing k with
  | nil s => simp at hr
  | last houtcome => simp at hr'
  | cons houtcome hrecords ih =>
      cases k with
      | zero =>
          cases hr
          exact ⟨_, congrArg (fun s => some (_, s)) (hrecords.before_zero hr').symm⟩
      | succ k => exact ih hr hr'

end Follows

end Poller

end WalletEvents
