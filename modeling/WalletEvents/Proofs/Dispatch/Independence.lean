import WalletEvents.Proofs.Activity.Schedule
import WalletEvents.Proofs.Dispatch.Batch
import WalletEvents.Proofs.Dispatch.Report

/-!
# The result of a batch does not depend on the schedule

**Input.** A dispatcher whose filters and handlers have outcomes that depend on the event
alone. They may pause, and they may do anything to the state. The outcomes are those of a
dispatcher that just gives them (`Dispatcher.Follows`). The events of a batch are processed
concurrently, by any schedule.

**Output.** The result of the batch, and a journal of the steps of all walks along the
chains, in the order in which they are taken.

**Result.** `Dispatcher.batch_independent_of_schedule`: every schedule has the same result,
which is the failure of the first event of the batch that fails, and a success if none does.
The journal interleaves the steps that each event takes when it is processed by itself, so
every event is processed to its end, and once.
-/

namespace WalletEvents

variable {σ ε α : Type}

namespace Activity

/-- The activity comes to its end with the value, whatever happens to the state between its steps. -/
def Gives (p : Activity σ α) (a : α) : Prop := p.Returns ∧ p.Yields (· = a)

theorem isAgreement_gives : IsAgreement (m := Activity σ) (n := Id) fun _ p q => p.Gives q.run where
  pure a := ⟨trivial, rfl⟩
  bind := by
    rintro α β p q k l ⟨hreturns, hyields⟩ hrest
    refine ⟨returns_bind_of_yields hreturns hyields ?_, yields_bind hyields ?_⟩
    · intro a ha
      rw [ha]
      exact (hrest q.run).1
    · intro a ha
      rw [ha]
      exact (hrest q.run).2

/-- The activity ends with the value of a computation that takes notes, and its entries in the log are
the notes. -/
def Transcribes (log : σ → List ε) (p : Activity σ α) (q : StateT (List ε) Id α) : Prop :=
  ∀ notes, ∃ a w, q.run notes = pure (a, notes ++ w) ∧ p.Settles log a w

theorem isAgreement_transcribes (log : σ → List ε) :
    IsAgreement (m := Activity σ) (n := StateT (List ε) Id) fun _ => Transcribes log where
  pure a notes := ⟨a, [], by simp, settles_pure a⟩
  bind := by
    intro α β p q k l hfirst hrest notes
    obtain ⟨a, w, hq, hp⟩ := hfirst notes
    obtain ⟨b, v, hl, hk⟩ := hrest a (notes ++ w)
    refine ⟨b, w ++ v, ?_, settles_bind hp hk⟩
    rw [StateT.run_bind, hq, pure_bind, hl, List.append_assoc]

end Activity

namespace Dispatcher

/-- All filters and handlers of the dispatcher have the outcomes of the other one's, whatever happens to
the state. -/
def Follows (d : Dispatcher (Activity σ)) (o : Dispatcher Id) : Prop :=
  d.Agrees (fun _ p q => p.Gives q.run) o

/-- What the processing of an event comes to. -/
def outcome (o : Dispatcher Id) (e : Event) : Except DispatchError Unit := (o.processEvent e).run

/-- The steps of all walks of an event. -/
def steps (o : Dispatcher Id) (e : Event) : List ChainStep :=
  ((o.stepping.processEvent e).run []).run.2

/-- The same dispatcher, which keeps a journal of its steps beside the state. -/
def journaled (d : Dispatcher (Activity σ)) : Dispatcher (Activity (σ × List ChainStep)) :=
  d.reporting (fun _ p => p.zoom Prod.fst fun s x => (s, x.2))
    fun step => .modify fun _ x => (x.1, x.2 ++ [step])

/-- The activity processes the events of a batch by some schedule. -/
def Feeds (d : Dispatcher (Activity σ)) (events : List Event)
    (feed : Activity σ (Except DispatchError Unit)) : Prop :=
  ∃ p, Activity.Schedule (events.map d.processEvent) p ∧ feed = return firstFailure (← p)

theorem feeds_feedEvents (d : Dispatcher (Activity σ)) (events : List Event) :
    d.Feeds events (d.feedEvents events) :=
  ⟨_, Activity.schedule_gather _, rfl⟩

variable {d : Dispatcher (Activity σ)} {o : Dispatcher Id} {events : List Event}

section Scheduled

variable {log : σ → List ε} {result : Event → Except DispatchError Unit} {entries : Event → List ε}

/-- Events with fixed outcomes and entries have them in every schedule. -/
theorem exists_run_of_schedule
    (hevents : ∀ e, (d.processEvent e).Settles log (result e) (entries e))
    {p : Activity σ (List (Except DispatchError Unit))}
    (h : Activity.Schedule (events.map d.processEvent) p) (t : Nat) (s : σ) :
    ∃ t' s' w, p.run t s = (some (events.map result), t', s') ∧
      log s' = log s ++ w ∧ Activity.Interleaving (events.map entries) w := by
  have hends : List.Forall₂ (fun q (last : _ × List ε) => q.Settles log last.1 last.2)
      (events.map d.processEvent) (events.map fun e => (result e, entries e)) := by
    simp [hevents]
  simpa [Function.comp_def] using h.exists_run hends t s

theorem Feeds.exists_run
    (hevents : ∀ e, (d.processEvent e).Settles log (result e) (entries e))
    {feed : Activity σ (Except DispatchError Unit)} (h : d.Feeds events feed) (t : Nat) (s : σ) :
    ∃ t' s' w, feed.run t s = (some (firstFailure (events.map result)), t', s') ∧
      log s' = log s ++ w ∧ Activity.Interleaving (events.map entries) w := by
  obtain ⟨p, hschedule, rfl⟩ := h
  obtain ⟨t', s', w, hrun, hlog, hentries⟩ := exists_run_of_schedule hevents hschedule t s
  refine ⟨t', s', w, ?_, hlog, hentries⟩
  rw [Activity.bind_eq, Activity.run_bind, hrun]
  rfl

end Scheduled

/-- An event has its outcome whatever happens to the state; nothing is said of a log here. -/
theorem settles_processEvent (h : d.Follows o) (e : Event) :
    (d.processEvent e).Settles (fun _ => ([] : List ChainStep)) (o.outcome e) [] := by
  obtain ⟨hreturns, hyields⟩ := processEvent_agrees Activity.isAgreement_gives h e
  exact Activity.settles_of_yields hreturns hyields
    (Activity.only_mono (Activity.only_true _) fun _ _ _ => rfl)

/-- The journal of an event is that of its own walks. -/
theorem settles_journaled (h : d.Follows o) (e : Event) :
    (d.journaled.processEvent e).Settles Prod.snd (o.outcome e) (o.steps e) := by
  have htranscribes : d.journaled.Agrees (fun _ => Activity.Transcribes Prod.snd) o.stepping := by
    refine reporting_agrees (Activity.isAgreement_transcribes Prod.snd) ?_ ?_ h
    · rintro α p q ⟨hreturns, hyields⟩ notes
      refine ⟨q.run, [], by simp; rfl, Activity.settles_of_yields ?_ ?_ ?_⟩
      · exact Activity.returns_zoom hreturns
      · exact Activity.yields_zoom hyields
      · exact Activity.only_zoom (Activity.only_true p) fun _ _ _ => rfl
    · intro step notes
      exact ⟨(), [step], rfl, fun t s => ⟨[step], [], rfl, rfl, rfl, rfl⟩⟩
  obtain ⟨a, w, hrun, hsettles⟩ :=
    processEvent_agrees (Activity.isAgreement_transcribes Prod.snd) htranscribes e []
  have hvalue : a = o.outcome e := by
    have hforgets := processEvent_agrees isAgreement_forgetsTo o.stepping_agrees e []
    rw [hrun] at hforgets
    exact hforgets
  have hsteps : w = o.steps e := by
    rw [steps, hrun]
    rfl
  rwa [hvalue, hsteps] at hsettles

/-- What becomes of a batch in every schedule: its result, and the journal of its steps. -/
structure FedAs (d : Dispatcher (Activity σ)) (o : Dispatcher Id) (events : List Event)
    (result : Except DispatchError Unit) : Prop where
  ok_iff : result = .ok () ↔ ∀ e ∈ events, o.outcome e = .ok ()
  /-- The error is that of the first event in the batch that fails. -/
  error_iff : ∀ error, result = .error error ↔ ∃ before e after, events = before ++ e :: after ∧
    (∀ earlier ∈ before, o.outcome earlier = .ok ()) ∧ o.outcome e = .error error
  /-- All events come to their outcomes, those behind a failure as well. -/
  collected : ∀ p, Activity.Schedule (events.map d.processEvent) p → ∀ t s, ∃ t' s',
    p.run t s = (some (events.map o.outcome), t', s')
  processed : ∀ e t s, ∃ t' s', (d.processEvent e).run t s = (some (o.outcome e), t', s')
  fed : ∀ feed, d.Feeds events feed → ∀ t s, ∃ t' s', feed.run t s = (some result, t', s')
  processed_journaled : ∀ e t s journal, ∃ t' s',
    (d.journaled.processEvent e).run t (s, journal) =
      (some (o.outcome e), t', (s', journal ++ o.steps e))
  /-- Each event of the batch takes all its steps, and no other steps are taken. -/
  fed_journaled : ∀ feed, d.journaled.Feeds events feed → ∀ t s journal, ∃ t' s' w,
    feed.run t (s, journal) = (some result, t', (s', journal ++ w)) ∧
      Activity.Interleaving (events.map o.steps) w

theorem fedAs (h : d.Follows o) (events : List Event) :
    d.FedAs o events (firstFailure (events.map o.outcome)) where
  ok_iff := firstFailure_map_eq_ok_iff
  error_iff _ := firstFailure_map_eq_error_iff
  collected p hschedule t s := by
    obtain ⟨t', s', -, hrun, -⟩ := exists_run_of_schedule (settles_processEvent h) hschedule t s
    exact ⟨t', s', hrun⟩
  processed e t s := by
    obtain ⟨t', s', hrun, -⟩ := (settles_processEvent h e).exists_run t s
    exact ⟨t', s', hrun⟩
  fed feed hfeed t s := by
    obtain ⟨t', s', -, hrun, -⟩ := Feeds.exists_run (settles_processEvent h) hfeed t s
    exact ⟨t', s', hrun⟩
  processed_journaled e t s journal := by
    obtain ⟨t', ⟨s', _⟩, hrun, rfl⟩ := (settles_journaled h e).exists_run t (s, journal)
    exact ⟨t', s', hrun⟩
  fed_journaled feed hfeed t s journal := by
    obtain ⟨t', ⟨s', _⟩, w, hrun, rfl, hsteps⟩ :=
      Feeds.exists_run (settles_journaled h) hfeed t (s, journal)
    exact ⟨t', s', w, hrun, hsteps⟩

/-- **A batch does not depend on the schedule.** If the outcomes of all filters and handlers depend on the
event alone, a batch ends with the same result whichever activity takes the next step, and every event
of it is processed to its end, and once. -/
theorem batch_independent_of_schedule (h : d.Follows o) (events : List Event) :
    d.Feeds events (d.feedEvents events) ∧
    d.journaled.Feeds events (d.journaled.feedEvents events) ∧
    ∃ result, d.FedAs o events result :=
  ⟨d.feeds_feedEvents events, d.journaled.feeds_feedEvents events, _, fedAs h events⟩

/-- A notice of a bill. -/
def namedBill (id : String) : Event :=
  .bill ⟨⟨"shop", id, ⟨"1.00", "RUB"⟩, ⟨.paid, none⟩, none, none, none, none, none⟩, "1"⟩

/-- A dispatcher whose handler of bills fails, for one bill later than for others. Its handler of failures
counts them and leaves them to others. -/
def failingLater : Dispatcher (Activity Nat) where
  transactions := .empty
  bills := ⟨[⟨[.leaf fun e => do Activity.pause 1; return e.billId.isSome], fun e => do
    Activity.pause (if e.billId = some "slow" then 10 else 0)
    return .failed ⟨e.billId.getD ""⟩⟩], true⟩
  errors := ⟨[⟨[], fun _ => do Activity.modify (fun _ n => n + 1); return .skip⟩], true⟩

/-- What its filters and handlers come to. -/
def failing : Dispatcher Id where
  transactions := .empty
  bills := ⟨[⟨[.leaf fun e => e.billId.isSome], fun e => .failed ⟨e.billId.getD ""⟩⟩], true⟩
  errors := ⟨[⟨[], fun _ => .skip⟩], true⟩

theorem batch_independent_of_schedule_of_failing :
    failingLater.Follows failing ∧
    ∀ feed, failingLater.Feeds [namedBill "slow", namedBill "quick"] feed → ∀ t s, ∃ t' s',
      feed.run t s = (some (.error (.unhandled .bill ⟨"slow"⟩)), t', s') := by
  have hfollows : failingLater.Follows failing := by
    intro kind
    cases kind with
    | transaction => exact ⟨.nil, rfl⟩
    | bill =>
        refine ⟨.cons ⟨fun e => ?_, fun e => ⟨trivial, rfl⟩⟩ .nil, rfl⟩
        simp only [Filter.checkAll, Filter.check]
        cases e.billId with
        | none => exact ⟨trivial, rfl⟩
        | some id => exact ⟨trivial, rfl⟩
    | error =>
        refine ⟨.cons ⟨fun _ => ⟨trivial, rfl⟩, fun _ => ?_⟩ .nil, rfl⟩
        exact ⟨fun _ _ => trivial, fun _ _ => rfl⟩
  obtain ⟨-, -, result, hfed⟩ :=
    batch_independent_of_schedule hfollows [namedBill "slow", namedBill "quick"]
  obtain rfl := (hfed.error_iff (.unhandled .bill ⟨"slow"⟩)).mpr
    ⟨[], namedBill "slow", [namedBill "quick"], rfl, by simp, rfl⟩
  exact ⟨hfollows, hfed.fed⟩

end Dispatcher

end WalletEvents
