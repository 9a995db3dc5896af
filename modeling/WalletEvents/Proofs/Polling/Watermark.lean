import WalletEvents.Proofs.Polling.Plan
import WalletEvents.Proofs.Polling.Watch

/-!
# The watermark over whole runs

The watermark of a poller is the only thing that tells new payments from old
ones. This module follows it through any number of ticks, whatever the history
answers and however the handlers end.

* A single tick does not lower the watermark, takes for new only what lies above
  it, and after a tick that went well nothing of its batch lies above it.
* Along `Poller.Follows` these laws chain up to laws on any two ticks of a run.

`Poller.watermark_safety` puts them together.
-/

namespace WalletEvents

namespace Poller

namespace TickOutcome

variable {config : PollingConfig} {s s' : PollState} {calls : List TickCall}
variable {value : Option (Except Failure TickReport × PollState)}

theorem advances
    {result : Except Failure TickReport} (h : TickOutcome config s calls (some (result, s'))) :
    Advances s.watermark s'.watermark := by
  rcases h.ended_inv with ⟨now, failure, hcalls, hresult, rfl⟩ |
    ⟨now, page, plan, ended, hplan, hcalls, hsettle⟩
  · exact Advances.refl _
  · have hplanned := planned_of_plan? hplan
    obtain rfl : s' = (settle plan ended).2 := congrArg Prod.snd hsettle
    exact hplanned.onFailure_advances.trans (hplanned.leaves ended).advances

/-- A tick hands over one batch at most, which belongs to the page that it was answered. -/
theorem handed_inv
    (h : TickOutcome config s calls value) {events : List Event} (hmem : .handed events ∈ calls) :
    ∃ query page plan,
      Planned config s page plan ∧
      calls = [.fetched query (.ok page), .handed events] ∧
      events = plan.batch.map .transaction := by
  cases h with
  | stuck => cases hmem
  | failed now failure => simp at hmem
  | broken now hplan => simp at hmem
  | handed now hplan ended =>
      simp only [List.mem_cons, reduceCtorEq, TickCall.handed.injEq, List.not_mem_nil, or_false,
        false_or] at hmem
      subst hmem
      exact ⟨_, _, _, planned_of_plan? hplan, rfl, rfl⟩

/-- What a tick dispatches is the batch of a plan. -/
theorem dispatched_inv
    (h : TickOutcome config s calls value) {t : Transaction}
    (ht : t ∈ calls.flatMap TickCall.transactions) :
    ∃ page plan, Planned config s page plan ∧ t ∈ plan.batch := by
  obtain ⟨call, hcall, ht⟩ := List.mem_flatMap.mp ht
  cases call with
  | fetched query answer => simp at ht
  | handed events =>
      obtain ⟨query, page, plan, hplanned, hcalls, rfl⟩ := h.handed_inv hcall
      rw [TickCall.transactions_handed] at ht
      exact ⟨page, plan, hplanned, ht⟩

theorem lt_of_dispatched
    (h : TickOutcome config s calls value) {t : Transaction}
    (ht : t ∈ calls.flatMap TickCall.transactions)
    {low : Int64} (hlow : s.watermark = some low) :
    low < t.txnId := by
  obtain ⟨page, plan, hplanned, ht⟩ := h.dispatched_inv ht
  exact hplanned.lt_of_mem_batch hlow ht

/-- A tick that went well has handed over the batch of its page. -/
theorem succeeded_inv
    {report : TickReport} (h : TickOutcome config s calls (some (.ok report, s'))) :
    ∃ now page plan,
      plan? config s page = some plan ∧
      calls = [.fetched (query config now s) (.ok page), .handed (plan.batch.map .transaction)] ∧
      s' = plan.onSuccess := by
  rcases h.ended_inv with ⟨now, failure, hcalls, hresult, hstate⟩ |
    ⟨now, page, plan, ended, hplan, hcalls, hsettle⟩
  · cases hresult
  · cases ended with
    | error e => cases hsettle
    | ok done =>
        cases hsettle
        exact ⟨now, page, plan, hplan, hcalls, rfl⟩

/-- After a tick that went well nothing that it dispatched lies above the watermark. -/
theorem exists_le_of_dispatched
    {report : TickReport} (h : TickOutcome config s calls (some (.ok report, s')))
    {t : Transaction} (ht : t ∈ calls.flatMap TickCall.transactions) :
    ∃ high, s'.watermark = some high ∧ t.txnId ≤ high := by
  obtain ⟨now, page, plan, hplan, rfl, rfl⟩ := h.succeeded_inv
  have hbatch : t ∈ plan.batch := by simpa using ht
  have hplanned := planned_of_plan? hplan
  exact hplanned.exists_le_of_mem_page (hplanned.mem_page hbatch)

end TickOutcome

namespace Follows

variable {config : PollingConfig} {s : PollState} {records : List TickRecord}

theorem advances_before (h : Follows config s records) :
    ∀ r ∈ records, Advances s.watermark r.before.watermark := by
  induction h with
  | nil s => simp
  | last houtcome => simpa using Advances.refl _
  | cons houtcome hrecords ih =>
      intro r hr
      rcases List.mem_cons.mp hr with rfl | hr
      · exact Advances.refl _
      · exact houtcome.advances.trans (ih r hr)

theorem advances_after (h : Follows config s records) :
    ∀ r ∈ records, Advances r.before.watermark r.after.watermark := by
  intro r hr
  have houtcome := h.outcome r hr
  unfold TickRecord.after
  rcases r with ⟨before, calls, _ | ⟨result, after⟩⟩
  · exact Advances.refl _
  · exact houtcome.advances

/-- From tick to tick the watermark does not sink. -/
theorem pairwise_advances (h : Follows config s records) :
    records.Pairwise fun r r' => Advances r.after.watermark r'.before.watermark := by
  induction h with
  | nil s => exact .nil
  | last houtcome => exact List.pairwise_singleton _ _
  | cons houtcome hrecords ih => exact .cons hrecords.advances_before ih

/-- What a tick dispatches lies above everything that was dispatched by a tick that went well: the
watermark after the earlier tick separates the two. -/
theorem pairwise_dispatched (h : Follows config s records) :
    records.Pairwise fun r r' =>
      r.Succeeded → ∀ t ∈ r.dispatched, ∀ t' ∈ r'.dispatched, t.txnId < t'.txnId := by
  refine h.pairwise_advances.imp_of_mem ?_
  rintro ⟨before, calls, value⟩ r' hr hr' hadvances ⟨report, after, rfl⟩ t ht t' ht'
  obtain ⟨high, hhigh, hle⟩ := (h.outcome _ hr).exists_le_of_dispatched ht
  obtain ⟨low, hlow, hraised⟩ := hadvances high hhigh
  have hlt := (h.outcome r' hr').lt_of_dispatched ht' hlow
  grind

end Follows

variable {σ : Type}

/--
**Watermark safety**, over any ticks one after another.

* The watermark neither sinks nor gets lost, from tick to tick and within each.
* A batch that is handed over is in ascending order and, when there is a watermark, is exactly what
  the page holds above it.
* What a tick dispatches lies above all that an earlier tick dispatched that went well.
-/
theorem watermark_safety (p : Poller σ) (starts : List (Nat × σ)) :
    let records := p.ticks (PollState.start p.config) starts
    (∀ r ∈ records, Advances r.before.watermark r.after.watermark) ∧
    (records.Pairwise fun r r' => Advances r.after.watermark r'.before.watermark) ∧
    (∀ r ∈ records, ∀ events, .handed events ∈ r.calls →
      ∃ (query : HistoryQuery) (page batch : List Transaction),
        r.calls = [.fetched query (.ok page), .handed events] ∧
        events = batch.map .transaction ∧
        (batch.Pairwise fun a b => a.txnId ≤ b.txnId) ∧
        ∀ low, r.before.watermark = some low →
          batch.Perm (page.filter fun t => low < t.txnId)) ∧
    (records.Pairwise fun r r' =>
      r.Succeeded → ∀ t ∈ r.dispatched, ∀ t' ∈ r'.dispatched, t.txnId < t'.txnId) := by
  intro records
  have hfollows : Follows p.config (PollState.start p.config) records := follows_ticks p _ starts
  refine ⟨hfollows.advances_after, hfollows.pairwise_advances, ?_, hfollows.pairwise_dispatched⟩
  intro r hr events hevents
  obtain ⟨query, page, plan, hplanned, hcalls, hevents⟩ :=
    (hfollows.outcome r hr).handed_inv hevents
  exact ⟨query, page, plan.batch, hcalls, hevents, hplanned.pairwise_batch,
    fun low hlow => hplanned.batch_perm hlow⟩

end Poller

end WalletEvents
