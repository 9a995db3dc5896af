import WalletEvents.Proofs.Polling.Startup

/-!
# Failed ticks

A tick fails when the history cannot be fetched or when its batch cannot be
dispatched. This module says that nothing is lost by it.

* A tick that could not fetch the history leaves all that is remembered as it was.
* The batch of a page is what the page holds above a threshold. There are three
  ways in which a threshold arises, and in each of them it is the watermark that
  is left behind when the batch fails, as `Poller.Planned.mem_batch_iff_onFailure`
  says.
* Further failures and empty pages leave this watermark where it is, so the next
  page is measured by the same threshold.

`Poller.failed_tick_repeated` puts them together.
-/

namespace WalletEvents

namespace TickRecord

/-- The tick ended with a failure. -/
def Failed (r : TickRecord) : Prop := ∃ failure s, r.value = some (.error failure, s)

/-- The tick ended with a failure of the dispatcher. -/
def DispatchFailed (r : TickRecord) : Prop := ∃ fault s, r.value = some (.error (.dispatch fault), s)

/-- The tick was answered with an empty page. -/
def FetchedNothing (r : TickRecord) : Prop := ∃ query, .fetched query (.ok []) ∈ r.calls

end TickRecord

/-- A payment counts as new for a watermark. The least identifier of all never does. -/
def Transaction.IsNew (watermark : Option Int64) (t : Transaction) : Prop :=
  t.isAbove watermark = true ∧ Int64.minValue < t.txnId

/-- Whether a payment is new hangs on its identifier alone. -/
theorem Transaction.IsNew.of_txnId_eq
    {watermark : Option Int64} {t x : Transaction} (ht : t.IsNew watermark)
    (hid : x.txnId = t.txnId) :
    x.IsNew watermark := by
  obtain ⟨habove, hleast⟩ := ht
  refine ⟨?_, hid ▸ hleast⟩
  cases watermark with
  | none => rfl
  | some low =>
      rw [isAbove, hid]
      exact habove

namespace Poller

/-- Every tick between the two failed or was answered with an empty page. -/
def NoneDispatched (records : List TickRecord) (k m : Nat) : Prop :=
  ∀ j r, k < j → j < m → records[j]? = some r → r.Failed ∨ r.FetchedNothing

variable {config : PollingConfig} {s s' : PollState} {page : List Transaction} {plan : TickPlan}
variable {records : List TickRecord} {r r' : TickRecord} {k m : Nat}

namespace Planned

/-- **The threshold of a page** is the watermark that is left behind when its batch fails. -/
theorem mem_batch_iff_onFailure (h : Planned config s page plan) {t : Transaction} :
    t ∈ plan.batch ↔ t ∈ page ∧ t.IsNew plan.onFailure.watermark := by
  have hfresh : ∀ {low : Int64}, t ∈ fresh low page ↔ t ∈ page ∧ t.IsNew (some low) := by
    intro low
    have hleast := Int64.minValue_le low
    rw [mem_fresh, Transaction.IsNew, Transaction.isAbove, decide_eq_true_eq]
    grind
  cases h with
  | empty => simp
  | known first rest hlow =>
      rw [planFrom_batch, planFrom_onFailure, seenPage, hlow]
      exact hfresh
  | unset first rest hnone hinit =>
      rw [planFrom_batch, planFrom_onFailure, seenPage, hnone, mem_fresh]
      simp [Transaction.IsNew, Transaction.isAbove]
  | skipped first rest hnone hinit hskip =>
      have hnot : t ∈ first :: rest → ¬ t.IsNew (some (greatestId first.txnId rest)) := by
        rintro ht ⟨habove, -⟩
        have hle := mem_page_le_greatestId first rest ht
        have hlt : greatestId first.txnId rest < t.txnId := of_decide_eq_true habove
        grind
      simpa [planSkipping] using hnot
  | seeded first rest hnone hinit hskip hleast => exact hfresh

/-- Once a page has come, a failure of the batch and an empty page leave the watermark where it was. -/
theorem settle_watermark
    (h : Planned config s page plan) (hinit : s.initialized = true)
    {ended : Except DispatchError Unit} (hkeeps : page = [] ∨ ended ≠ .ok ()) :
    (settle plan ended).2.watermark = s.watermark := by
  cases ended with
  | error fault => exact h.onFailure_watermark hinit
  | ok done =>
      rcases hkeeps with rfl | hfailed
      · cases h
        rfl
      · exact absurd rfl hfailed

end Planned

namespace TickOutcome

variable {calls : List TickCall} {value : Option (Except Failure TickReport × PollState)}

/-- A tick that could not fetch the history fails, and everything stays as it was. -/
theorem value_of_fetch_failed
    (h : TickOutcome config s calls value) {query : HistoryQuery} {failure : Failure}
    (hfetch : .fetched query (.error failure) ∈ calls) :
    value = some (.error failure, s) := by
  cases h with
  | stuck => cases hfetch
  | failed now failure' =>
      obtain ⟨-, rfl⟩ : _ ∧ failure = failure' := by simpa using hfetch
      rfl
  | broken now hplan => simp at hfetch
  | handed now hplan ended => simp at hfetch

/-- What a tick has dispatched in vain is new for the watermark that it leaves behind. -/
theorem isNew_of_dispatch_failed
    {fault : DispatchError}
    (h : TickOutcome config s calls (some (.error (.dispatch fault), s'))) {t : Transaction}
    (ht : t ∈ calls.flatMap TickCall.transactions) :
    s'.initialized = true ∧ t.IsNew s'.watermark := by
  rcases h.ended_inv with ⟨now, failure, rfl, -, -⟩ |
    ⟨now, page, plan, ended, hplan, rfl, hsettle⟩
  · simp at ht
  · have hplanned := planned_of_plan? hplan
    have hbatch : t ∈ plan.batch := by simpa using ht
    cases ended with
    | ok done => cases hsettle
    | error e =>
        cases hsettle
        exact ⟨(hplanned.leaves (.error fault)).initialized,
          (hplanned.mem_batch_iff_onFailure.mp hbatch).2⟩

/-- A tick that fails or is answered with an empty page leaves the watermark where it was. -/
theorem watermark_of_none_dispatched
    {result : Except Failure TickReport} (h : TickOutcome config s calls (some (result, s')))
    (hinit : s.initialized = true)
    (hnone : (∃ failure, result = .error failure) ∨ ∃ query, .fetched query (.ok []) ∈ calls) :
    s'.initialized = true ∧ s'.watermark = s.watermark := by
  rcases h.ended_inv with ⟨now, failure, -, -, rfl⟩ |
    ⟨now, page, plan, ended, hplan, rfl, hsettle⟩
  · exact ⟨hinit, rfl⟩
  · have hplanned := planned_of_plan? hplan
    obtain ⟨hresult, rfl⟩ := Prod.mk.inj hsettle
    refine ⟨(hplanned.leaves ended).initialized, hplanned.settle_watermark hinit ?_⟩
    rcases hnone with ⟨failure, rfl⟩ | ⟨query, hempty⟩
    · refine .inr ?_
      rintro rfl
      cases hresult
    · exact .inl (by simpa using hempty : _ ∧ [] = page).2.symm

/-- A tick that was answered with a page dispatches all of it that is new. -/
theorem dispatched_of_isNew
    (h : TickOutcome config s calls value) (hinit : s.initialized = true)
    {query : HistoryQuery} (hpage : .fetched query (.ok page) ∈ calls)
    {x : Transaction} (hx : x ∈ page) (hnew : x.IsNew s.watermark) :
    x ∈ calls.flatMap TickCall.transactions := by
  rcases h.fetched_inv hpage with hnone | ⟨plan, ended, hplan, rfl, -⟩
  · cases page with
    | nil => cases hx
    | cons first rest => cases hlow : s.watermark <;> simp [plan?, hlow, hinit] at hnone
  · simpa using (planned_of_plan? hplan).mem_batch hinit hx hnew.1 hnew.2

end TickOutcome

namespace Follows

/-- **The invariant after a failed batch.** The watermark that it left behind is the one before every
later tick, as long as none in between dispatched something with success. -/
theorem watermark_before
    (h : Follows config s records) (hr : records[k]? = some r) (hfailed : r.DispatchFailed)
    {t : Transaction} (ht : t ∈ r.dispatched) (hlt : k < m) (hr' : records[m]? = some r')
    (hnone : NoneDispatched records k m) :
    r'.before.initialized = true ∧ t.IsNew r'.before.watermark := by
  induction hlt generalizing r' with
  | refl =>
      obtain ⟨result, hended⟩ := h.value_of_succ hr hr'
      obtain ⟨fault, after, hvalue⟩ := hfailed
      obtain ⟨rfl, rfl⟩ := Prod.mk.inj (Option.some.inj (hvalue.symm.trans hended))
      have houtcome := h.outcome r (List.mem_of_getElem? hr)
      rw [hvalue] at houtcome
      exact houtcome.isNew_of_dispatch_failed ht
  | @step m hlt ih =>
      obtain ⟨last, hlast⟩ := exists_of_succ hr'
      obtain ⟨hinit, hnew⟩ := ih hlast fun j r hj hjm => hnone j r hj (Nat.lt_succ_of_lt hjm)
      obtain ⟨result, hended⟩ := h.value_of_succ hlast hr'
      have houtcome := h.outcome last (List.mem_of_getElem? hlast)
      rw [hended] at houtcome
      have hkeeps : (∃ failure, result = .error failure) ∨
          ∃ query, .fetched query (.ok []) ∈ last.calls := by
        refine (hnone m last hlt (Nat.lt_succ_self m) hlast).imp_left ?_
        rintro ⟨failure, after, hvalue⟩
        exact ⟨failure, congrArg Prod.fst (Option.some.inj (hended.symm.trans hvalue))⟩
      obtain ⟨hinit', hwatermark⟩ := houtcome.watermark_of_none_dispatched hinit hkeeps
      exact ⟨hinit', hwatermark ▸ hnew⟩

end Follows

variable {σ : Type}

/--
**A failed tick is repeated in full**, in any ticks one after another.

* A tick that could not fetch the history ends with this failure, and everything that is remembered
  stays as it was.
* What a tick has handed over to a dispatcher that failed is handed over again by the next tick that is
  answered with a page, as far as it is on that page, when all ticks in between failed or were
  answered with empty pages.
-/
theorem failed_tick_repeated (p : Poller σ) (starts : List (Nat × σ)) :
    let records := p.ticks (PollState.start p.config) starts
    (∀ r ∈ records, ∀ query failure, .fetched query (.error failure) ∈ r.calls →
      r.value = some (.error failure, r.before)) ∧
    (∀ k m r r', k < m → records[k]? = some r → records[m]? = some r' →
      r.DispatchFailed → NoneDispatched records k m →
      ∀ query page, .fetched query (.ok page) ∈ r'.calls →
        ∀ t ∈ r.dispatched, ∀ x ∈ page, x.txnId = t.txnId → x ∈ r'.dispatched) := by
  intro records
  have hfollows : Follows p.config (PollState.start p.config) records := follows_ticks p _ starts
  constructor
  · intro r hr query failure hfetch
    exact (hfollows.outcome r hr).value_of_fetch_failed hfetch
  · intro k m r r' hlt hr hr' hfailed hnone query page hpage t ht x hx hid
    obtain ⟨hinit, hnew⟩ := hfollows.watermark_before hr hfailed ht hlt hr' hnone
    exact (hfollows.outcome r' (List.mem_of_getElem? hr')).dispatched_of_isNew hinit hpage hx
      (hnew.of_txnId_eq hid)

/-- The first batch fails, then the history is empty for one tick, and then its payments are back. -/
def interruptedTicks : List TickRecord :=
  retryPoller.ticks (PollState.start retryPoller.config)
    [(0, [retryPayment, laterPayment]), (0, []), (1, [retryPayment, laterPayment])]

theorem interruptedTicks_eq :
    interruptedTicks =
      let asked := query .usual ⟨0, 0⟩ ⟨none, false, none⟩
      [⟨⟨none, false, none⟩,
          [.fetched asked (.ok [laterPayment, retryPayment]), .handed [.transaction laterPayment]],
          some (.error (.dispatch (.unhandled .transaction ⟨"not yet"⟩)), ⟨some 1, true, none⟩)⟩,
        ⟨⟨some 1, true, none⟩, [.fetched asked (.ok []), .handed []],
          some (.ok ⟨0, 0, 0, false⟩, ⟨some 1, true, none⟩)⟩,
        ⟨⟨some 1, true, none⟩,
          [.fetched asked (.ok [laterPayment, retryPayment]), .handed [.transaction laterPayment]],
          some (.ok ⟨2, 1, 0, false⟩, ⟨some 2, true, none⟩)⟩] := by
  have hfailed : (retryPoller.dispatcher.feedEvents [.transaction laterPayment]).run 0
      [retryPayment, laterPayment] =
        (some (.error (.unhandled .transaction ⟨"not yet"⟩)), 0, [retryPayment, laterPayment]) := by
    rw [Dispatcher.run_feedEvents_one]
    rfl
  have hempty : (retryPoller.dispatcher.feedEvents []).run 0 [] = (some (.ok ()), 0, []) := by
    rw [Dispatcher.feedEvents_nil]
    rfl
  have hdone : (retryPoller.dispatcher.feedEvents [.transaction laterPayment]).run 1
      [retryPayment, laterPayment] = (some (.ok ()), 1, [retryPayment, laterPayment]) := by
    rw [Dispatcher.run_feedEvents_one]
    rfl
  have hstart : PollState.start retryPoller.config = ⟨none, false, none⟩ := rfl
  rw [interruptedTicks, hstart, ticks_cons_handed rfl plan?_startup hfailed]
  simp only [settle]
  rw [ticks_cons_handed rfl rfl hempty, ticks_cons_handed rfl plan?_secondAttempt hdone]
  rfl

/-- The payment whose dispatch failed is dispatched again two ticks later. -/
theorem failed_tick_repeated_of_interrupted :
    ∃ r r' query page,
      interruptedTicks[0]? = some r ∧ interruptedTicks[2]? = some r' ∧
      r.DispatchFailed ∧ NoneDispatched interruptedTicks 0 2 ∧
      .fetched query (.ok page) ∈ r'.calls ∧ laterPayment ∈ page ∧
      laterPayment ∈ r.dispatched ∧ laterPayment ∈ r'.dispatched := by
  obtain ⟨r, r', query, page, hr, hr', hfailed, hnone, hpage, hmem, hfirst⟩ : ∃ r r' query page,
      interruptedTicks[0]? = some r ∧ interruptedTicks[2]? = some r' ∧
      r.DispatchFailed ∧ NoneDispatched interruptedTicks 0 2 ∧
      .fetched query (.ok page) ∈ r'.calls ∧ laterPayment ∈ page ∧
      laterPayment ∈ r.dispatched := by
    rw [interruptedTicks_eq]
    refine ⟨_, _, _, _, rfl, rfl, ⟨_, _, rfl⟩, ?_, List.mem_cons_self, List.mem_cons_self,
      List.mem_cons_self⟩
    intro j r hlow hhigh hr
    obtain rfl : j = 1 := by omega
    cases hr
    exact .inr ⟨_, List.mem_cons_self⟩
  have hagain := (failed_tick_repeated retryPoller _).2 0 2 r r' Nat.two_pos hr hr' hfailed hnone
    query page hpage laterPayment hfirst laterPayment hmem rfl
  exact ⟨r, r', query, page, hr, hr', hfailed, hnone, hpage, hmem, hfirst, hagain⟩

end Poller

end WalletEvents
