import WalletEvents.Proofs.Polling.Burst

/-!
# Payments from before the start

The first page that comes holds payments that were made before the poller was
there. This module says what becomes of them, whatever the service answers and
however the handlers end before and after that page.

**The first page holds payments**, the newest one first:

* without `skipUpdates` its newest payment is dispatched, and the threshold for
  it stays behind even if the batch fails, so that every later batch lies above
  the other payments of the page;
* with `skipUpdates` the watermark goes up to the newest payment at once.

**The first page is empty**: the poller is `Poller.Open`, which means that every
payment counts as new, until a tick with payments goes well.

`Poller.startup_history_not_replayed` puts them together.
-/

namespace WalletEvents

namespace Poller

/-- No payment that the ticks were answered with has the least identifier of all. -/
def AboveLeast (records : List TickRecord) : Prop :=
  ∀ r ∈ records, ∀ query page, .fetched query (.ok page) ∈ r.calls →
    ∀ t ∈ page, Int64.minValue < t.txnId

/-- A page has come, and still every payment counts as new. -/
structure Open (s : PollState) : Prop where
  initialized : s.initialized = true
  watermark : s.watermark = none

/-- Between the two ticks none that was answered with payments went well. -/
def NoneDone (records : List TickRecord) (first k : Nat) : Prop :=
  ∀ j r, first < j → j < k → records[j]? = some r → r.Succeeded →
    ∀ query page, .fetched query (.ok page) ∈ r.calls → page = []

variable {config : PollingConfig} {s s' : PollState} {page : List Transaction} {plan : TickPlan}
variable {records : List TickRecord} {r r' : TickRecord} {first k : Nat}

/-- There is a plan for every page without the least identifier. -/
theorem exists_plan?
    (hleast : ∀ t ∈ page, Int64.minValue < t.txnId) :
    ∃ plan, plan? config s page = some plan := by
  cases page with
  | nil => exact ⟨_, rfl⟩
  | cons newest rest =>
      have hnewest : newest.txnId ≠ Int64.minValue := by
        have := hleast newest List.mem_cons_self
        grind
      cases hlow : s.watermark with
      | some low => simp [plan?, hlow]
      | none =>
          cases hinit : s.initialized with
          | true => simp [plan?, hlow, hinit]
          | false => cases hskip : config.skipUpdates <;> simp [plan?, hlow, hinit, hskip, hnewest]

/-- Only the newest payment of a page lies above the identifier before its own. -/
theorem fresh_pred_newest
    {newest : Transaction} {rest : List Transaction}
    (hleast : Int64.minValue < newest.txnId) (holder : ∀ old ∈ rest, old.txnId < newest.txnId) :
    fresh (newest.txnId - 1) (newest :: rest) = [newest] := by
  have hnewest : decide (newest.txnId - 1 < newest.txnId) = true := by
    rw [decide_eq_true_eq]
    grind
  have hrest : rest.filter (fun t => decide (newest.txnId - 1 < t.txnId)) = [] := by
    rw [List.filter_eq_nil_iff]
    intro old hold
    have := holder old hold
    rw [decide_eq_true_eq]
    grind
  rw [fresh, List.filter_cons_of_pos (by exact hnewest), hrest, List.mergeSort_singleton]

namespace Planned

/-- Of a first page that is not skipped the newest payment is new, and whatever becomes of it, no
older one will be. -/
theorem seeded_inv
    {newest : Transaction} {rest : List Transaction}
    (h : Planned config s (newest :: rest) plan)
    (hnone : s.watermark = none) (hinit : s.initialized = false)
    (hskip : config.skipUpdates = false)
    (hleast : Int64.minValue < newest.txnId) (holder : ∀ old ∈ rest, old.txnId < newest.txnId) :
    plan.batch = [newest] ∧ plan.onFailure.watermark = some (newest.txnId - 1) := by
  cases h with
  | known first rest hlow => simp [hnone] at hlow
  | unset first rest hnone' hinit' => simp [hinit] at hinit'
  | skipped first rest hnone' hinit' hskip' => simp [hskip] at hskip'
  | seeded first rest hnone' hinit' hskip' hleast' => exact ⟨fresh_pred_newest hleast holder, rfl⟩

/-- Of a first page that is skipped nothing is new, now or later. -/
theorem skipped_inv
    (h : Planned config s page plan) (hnone : s.watermark = none) (hinit : s.initialized = false)
    (hskip : config.skipUpdates = true) :
    plan.batch = [] ∧
      ∀ old ∈ page, ∃ high, plan.onFailure.watermark = some high ∧ old.txnId ≤ high := by
  cases h with
  | empty => exact ⟨rfl, by simp⟩
  | known first rest hlow => simp [hnone] at hlow
  | unset first rest hnone' hinit' => simp [hinit] at hinit'
  | skipped first rest hnone' hinit' hskip' =>
      exact ⟨rfl, fun old hold => ⟨_, rfl, mem_page_le_greatestId first rest hold⟩⟩
  | seeded first rest hnone' hinit' hskip' hleast => simp [hskip] at hskip'

/-- As long as every payment counts as new, the batch is the page in another order. -/
theorem batch_perm_of_open
    (h : Planned config s page plan) (hopen : Open s)
    (hleast : ∀ t ∈ page, Int64.minValue < t.txnId) :
    plan.batch.Perm page := by
  cases h with
  | empty => exact .nil
  | known first rest hlow => simp [hopen.watermark] at hlow
  | unset first rest hnone hinit =>
      have hall : (first :: rest).filter (fun t => decide (Int64.minValue < t.txnId)) =
          first :: rest :=
        List.filter_eq_self.mpr fun t ht => decide_eq_true (hleast t ht)
      have hperm := fresh_perm Int64.minValue (first :: rest)
      rw [hall] at hperm
      exact hperm
  | skipped first rest hnone hinit hskip => simp [hopen.initialized] at hinit
  | seeded first rest hnone hinit hskip hleast' => simp [hopen.initialized] at hinit

/-- A batch that fails and an empty page leave it at that. -/
theorem open_settle
    (h : Planned config s page plan) (hnone : s.watermark = none)
    {ended : Except DispatchError Unit}
    (hkeeps : page = [] ∨ s.initialized = true ∧ ended ≠ .ok ()) :
    Open (settle plan ended).2 := by
  refine ⟨(h.leaves ended).initialized, ?_⟩
  rcases hkeeps with rfl | ⟨hinit, hfailed⟩
  · cases h
    cases ended <;> exact hnone
  · cases ended with
    | error e => exact (h.onFailure_watermark hinit).trans hnone
    | ok done => exact absurd rfl hfailed

end Planned

/-- A tick whose page came either broke off without a plan for it or has handed over its batch. -/
theorem TickOutcome.fetched_inv
    {calls : List TickCall} {value : Option (Except Failure TickReport × PollState)}
    (h : TickOutcome config s calls value)
    {query : HistoryQuery} (hpage : .fetched query (.ok page) ∈ calls) :
    plan? config s page = none ∨
      ∃ (plan : TickPlan) (ended : Option (Except DispatchError Unit)),
        plan? config s page = some plan ∧
        calls = [.fetched query (.ok page), .handed (plan.batch.map .transaction)] ∧
        value = ended.map (settle plan) := by
  cases h with
  | stuck => cases hpage
  | failed now failure => simp at hpage
  | broken now hplan =>
      obtain ⟨-, rfl⟩ : _ ∧ page = _ := by simpa using hpage
      exact .inl hplan
  | @handed now _ plan hplan ended =>
      obtain ⟨rfl, rfl⟩ : query = _ ∧ page = _ := by simpa using hpage
      exact .inr ⟨plan, ended, hplan, rfl, rfl⟩

namespace Follows

/-- What a page makes a tick dispatch, and what it leaves behind for the next one. -/
theorem planned_of_fetched
    (h : Follows config s records) (habove : AboveLeast records) (hr : records[k]? = some r)
    {query : HistoryQuery} (hpage : .fetched query (.ok page) ∈ r.calls) :
    ∃ plan, Planned config r.before page plan ∧ r.dispatched = plan.batch ∧
      ∀ r', records[k + 1]? = some r' → Leaves r.before page plan r'.before := by
  have hmem := List.mem_of_getElem? hr
  obtain ⟨plan, hplan⟩ : ∃ plan, plan? config r.before page = some plan :=
    exists_plan? (habove r hmem query page hpage)
  rcases (h.outcome r hmem).fetched_inv hpage with hnone | ⟨plan', ended, hplan', hcalls, hvalue⟩
  · simp [hplan] at hnone
  · obtain rfl : plan = plan' := Option.some.inj (hplan.symm.trans hplan')
    have hplanned := planned_of_plan? hplan
    refine ⟨plan, hplanned, by simp [TickRecord.dispatched, hcalls], ?_⟩
    intro r' hr'
    obtain ⟨result, hended⟩ := h.value_of_succ hr hr'
    cases ended with
    | none => simp [hvalue] at hended
    | some ended =>
        have hafter : (settle plan ended).2 = r'.before :=
          congrArg Prod.snd (Option.some.inj (hvalue.symm.trans hended))
        exact hafter ▸ hplanned.leaves ended

/-- From any tick to any later one the watermark does not sink. -/
theorem advances_of_le
    (h : Follows config s records) (hle : first ≤ k)
    (hr : records[first]? = some r) (hr' : records[k]? = some r') :
    Advances r.before.watermark r'.before.watermark := by
  rcases Nat.eq_or_lt_of_le hle with rfl | hlt
  · obtain rfl : r = r' := Option.some.inj (hr.symm.trans hr')
    exact Advances.refl _
  · obtain ⟨hfirst, rfl⟩ := List.getElem?_eq_some_iff.mp hr
    obtain ⟨hk, rfl⟩ := List.getElem?_eq_some_iff.mp hr'
    exact (h.advances_after _ (List.getElem_mem hfirst)).trans
      (List.pairwise_iff_getElem.mp h.pairwise_advances first k hfirst hk hlt)

/-- All that is dispatched after a page lies above the watermark that even a failure of its batch
leaves behind. -/
theorem lt_of_dispatched_after
    (h : Follows config s records)
    (hleaves : ∀ r', records[first + 1]? = some r' → Leaves r.before page plan r'.before)
    {low : Int64} (hlow : plan.onFailure.watermark = some low)
    (hlt : first < k) (hr' : records[k]? = some r') {t : Transaction} (ht : t ∈ r'.dispatched) :
    low < t.txnId := by
  have hlen := (List.getElem?_eq_some_iff.mp hr').1
  have hnext : records[first + 1]? = some records[first + 1] := List.getElem?_eq_getElem (by omega)
  obtain ⟨high, hhigh, hle⟩ :=
    ((hleaves _ hnext).advances.trans (h.advances_of_le hlt hnext hr')) low hlow
  have habove := (h.outcome r' (List.mem_of_getElem? hr')).lt_of_dispatched ht hhigh
  grind

/-- Every payment still counts as new after a tick, unless it was answered with payments and went
well. -/
theorem open_succ
    (h : Follows config s records) (hopen : Open r.before)
    (hr : records[k]? = some r) (hr' : records[k + 1]? = some r')
    (hnone : r.Succeeded → ∀ query page, .fetched query (.ok page) ∈ r.calls → page = []) :
    Open r'.before := by
  rcases h.next_cases hr hr' with ⟨-, hsame⟩ |
    ⟨now, page, plan, ended, hplanned, hfetched, hafter, hdone⟩
  · exact hsame ▸ hopen
  · rw [hafter]
    refine hplanned.open_settle hopen.watermark ?_
    by_cases hended : ended = .ok ()
    · exact .inl (hnone (hdone hended).1 _ page hfetched)
    · exact .inr ⟨hopen.initialized, hended⟩

/-- **The invariant after an empty first page.** Every payment counts as new before every tick, as
long as none with payments has gone well. -/
theorem open_before
    (h : Follows config s records) (hr : records[first]? = some r)
    {query : HistoryQuery} (hempty : .fetched query (.ok []) ∈ r.calls)
    (hbefore : r.before.watermark = none)
    (hlt : first < k) (hr' : records[k]? = some r') (hnone : NoneDone records first k) :
    Open r'.before := by
  induction hlt generalizing r' with
  | refl =>
      rcases h.next_cases hr hr' with ⟨hnot, -⟩ |
        ⟨now, page, plan, ended, hplanned, hfetched, hafter, -⟩
      · exact absurd ⟨query, [], hempty⟩ hnot
      · have hpage : page = [] := by
          rcases (h.outcome r (List.mem_of_getElem? hr)).fetched_inv hempty with hplan |
            ⟨plan, ended, -, hcalls, -⟩
          · cases hplan
          · obtain ⟨-, rfl⟩ : _ ∧ page = [] := by simpa [hcalls] using hfetched
            rfl
        rw [hafter]
        exact hplanned.open_settle hbefore (.inl hpage)
  | @step k hlt ih =>
      obtain ⟨last, hlast⟩ := exists_of_succ hr'
      have hopen := ih hlast fun j r hj hjk => hnone j r hj (Nat.lt_succ_of_lt hjk)
      exact h.open_succ hopen hlast hr' (hnone k last hlt (Nat.lt_succ_self k) hlast)

end Follows

variable {σ : Type}

/--
**The history from before the start is never replayed**, in any ticks one after another of which the
one with number `first` is the first that a page came to, with its newest payment first.

* Without `skipUpdates` the newest payment of that page is dispatched in this tick, and nothing that is
  dispatched later is as old as the others, whether the dispatch went well or not.
* With `skipUpdates` nothing that is ever dispatched is as old as the payments of that page.
* If that page was empty, every page that comes is dispatched as a whole, up to the first tick with
  payments that goes well.
-/
theorem startup_history_not_replayed
    (p : Poller σ) (starts : List (Nat × σ))
    (habove : AboveLeast (p.ticks (PollState.start p.config) starts))
    {first : Nat} {r : TickRecord} {query : HistoryQuery} {page : List Transaction}
    (hr : (p.ticks (PollState.start p.config) starts)[first]? = some r)
    (hpage : .fetched query (.ok page) ∈ r.calls)
    (hfirst : FirstFetch (p.ticks (PollState.start p.config) starts) first)
    (hdescends : page.Pairwise fun newer older => older.txnId < newer.txnId) :
    let records := p.ticks (PollState.start p.config) starts
    (p.config.skipUpdates = false → ∀ newest rest, page = newest :: rest →
      r.dispatched = [newest] ∧
      ∀ k r', first < k → records[k]? = some r' →
        ∀ t ∈ r'.dispatched, ∀ old ∈ rest, old.txnId < t.txnId) ∧
    (p.config.skipUpdates = true → ∀ k r', first ≤ k → records[k]? = some r' →
      ∀ t ∈ r'.dispatched, ∀ old ∈ page, old.txnId < t.txnId) ∧
    (page = [] → ∀ k r', first < k → records[k]? = some r' → NoneDone records first k →
      ∀ query' page', .fetched query' (.ok page') ∈ r'.calls → r'.dispatched.Perm page') := by
  have hfollows := follows_ticks p (PollState.start p.config) starts
  generalize p.ticks (PollState.start p.config) starts = records at *
  have hstart : r.before = PollState.start p.config := hfollows.before_eq_start hr hfirst.2
  have hnone : r.before.watermark = none := congrArg PollState.watermark hstart
  have hinit : r.before.initialized = false := congrArg PollState.initialized hstart
  obtain ⟨plan, hplanned, hdispatched, hleaves⟩ := hfollows.planned_of_fetched habove hr hpage
  refine ⟨?_, ?_, ?_⟩
  · rintro hskip newest rest rfl
    have hleast := habove r (List.mem_of_getElem? hr) query _ hpage newest List.mem_cons_self
    have holder : ∀ old ∈ rest, old.txnId < newest.txnId :=
      (List.pairwise_cons.mp hdescends).1
    obtain ⟨hbatch, hseed⟩ := hplanned.seeded_inv hnone hinit hskip hleast holder
    refine ⟨hdispatched.trans hbatch, ?_⟩
    intro k r' hlt hr' t ht old hold
    have hlow := hfollows.lt_of_dispatched_after hleaves hseed hlt hr' ht
    have := holder old hold
    grind
  · intro hskip k r' hle hr' t ht old hold
    obtain ⟨hbatch, hskipped⟩ := hplanned.skipped_inv hnone hinit hskip
    rcases Nat.eq_or_lt_of_le hle with rfl | hlt
    · obtain rfl : r = r' := Option.some.inj (hr.symm.trans hr')
      simp [hdispatched, hbatch] at ht
    · obtain ⟨high, hhigh, hold⟩ := hskipped old hold
      have hlow := hfollows.lt_of_dispatched_after hleaves hhigh hlt hr' ht
      grind
  · rintro rfl k r' hlt hr' hdone query' page' hpage'
    have hopen := hfollows.open_before hr hpage hnone hlt hr' hdone
    obtain ⟨plan', hplanned', hdispatched', -⟩ := hfollows.planned_of_fetched habove hr' hpage'
    rw [hdispatched']
    exact hplanned'.batch_perm_of_open hopen
      (habove r' (List.mem_of_getElem? hr') query' page' hpage')

/-- Two ticks on the same two payments; the handler fails in the first of them. -/
def startupTicks : List TickRecord :=
  retryPoller.ticks (PollState.start retryPoller.config)
    [(0, [retryPayment, laterPayment]), (1, [retryPayment, laterPayment])]

theorem fresh_startup :
    fresh 1 [laterPayment, retryPayment] = [laterPayment] := by
  have hfresh : fresh (laterPayment.txnId - 1) [laterPayment, retryPayment] = [laterPayment] :=
    fresh_pred_newest (by decide) (by decide)
  have hseed : laterPayment.txnId - 1 = 1 := rfl
  rwa [hseed] at hfresh

theorem plan?_startup :
    plan? .usual ⟨none, false, none⟩ [laterPayment, retryPayment] =
      some ⟨⟨some 1, true, none⟩, [laterPayment], ⟨some 2, true, none⟩, ⟨2, 1, 0, false⟩⟩ := by
  have hseed : laterPayment.txnId - 1 = 1 := rfl
  have hplan : plan? .usual ⟨none, false, none⟩ [laterPayment, retryPayment] =
      some (planAbove (laterPayment.txnId - 1) 2 [laterPayment, retryPayment]
        ⟨some (laterPayment.txnId - 1), true, none⟩ false) := rfl
  rw [hplan, hseed, planAbove, fresh_startup]
  rfl

theorem plan?_secondAttempt :
    plan? .usual ⟨some 1, true, none⟩ [laterPayment, retryPayment] =
      some ⟨⟨some 1, true, none⟩, [laterPayment], ⟨some 2, true, none⟩, ⟨2, 1, 0, false⟩⟩ := by
  have hplan : plan? .usual ⟨some 1, true, none⟩ [laterPayment, retryPayment] =
      some (planAbove 1 2 [laterPayment, retryPayment] ⟨some 1, true, none⟩ false) := rfl
  rw [hplan, planAbove, fresh_startup]
  rfl

theorem startupTicks_eq :
    startupTicks =
      [⟨⟨none, false, none⟩,
          [.fetched (query .usual ⟨0, 0⟩ ⟨none, false, none⟩) (.ok [laterPayment, retryPayment]),
            .handed [.transaction laterPayment]],
          some (.error (.dispatch (.unhandled .transaction ⟨"not yet"⟩)), ⟨some 1, true, none⟩)⟩,
        ⟨⟨some 1, true, none⟩,
          [.fetched (query .usual ⟨0, 0⟩ ⟨some 1, true, none⟩) (.ok [laterPayment, retryPayment]),
            .handed [.transaction laterPayment]],
          some (.ok ⟨2, 1, 0, false⟩, ⟨some 2, true, none⟩)⟩] := by
  have hfailed : (retryPoller.dispatcher.feedEvents [.transaction laterPayment]).run 0
      [retryPayment, laterPayment] =
        (some (.error (.unhandled .transaction ⟨"not yet"⟩)), 0, [retryPayment, laterPayment]) := by
    rw [Dispatcher.run_feedEvents_one]
    rfl
  have hdone : (retryPoller.dispatcher.feedEvents [.transaction laterPayment]).run 1
      [retryPayment, laterPayment] = (some (.ok ()), 1, [retryPayment, laterPayment]) := by
    rw [Dispatcher.run_feedEvents_one]
    rfl
  have hstart : PollState.start retryPoller.config = ⟨none, false, none⟩ := rfl
  rw [startupTicks, hstart, ticks_cons_handed rfl plan?_startup hfailed]
  simp only [settle]
  rw [ticks_cons_handed rfl plan?_secondAttempt hdone]
  rfl

/-- The second tick dispatches the newest payment again and still not the older one. -/
theorem startup_history_not_replayed_of_retry :
    AboveLeast startupTicks ∧ FirstFetch startupTicks 0 ∧
    ∃ r r',
      startupTicks[0]? = some r ∧ ¬ r.Succeeded ∧
      startupTicks[1]? = some r' ∧ laterPayment ∈ r'.dispatched ∧
      r.dispatched = [laterPayment] ∧ ∀ t ∈ r'.dispatched, retryPayment.txnId < t.txnId := by
  have habove : AboveLeast startupTicks := by
    rw [startupTicks_eq]
    intro r hr query page hpage t ht
    have hpages : page = [laterPayment, retryPayment] := by
      rcases List.mem_cons.mp hr with rfl | hr
      · exact (by simpa using hpage : _ ∧ page = _).2
      · rw [List.mem_singleton.mp hr] at hpage
        exact (by simpa using hpage : _ ∧ page = _).2
    have hids : ∀ t ∈ [laterPayment, retryPayment], Int64.minValue < t.txnId := by
      decide
    exact hids t (hpages ▸ ht)
  have hfirst : FirstFetch startupTicks 0 := by
    rw [startupTicks_eq]
    exact ⟨⟨_, rfl, _, _, List.mem_cons_self⟩, fun j r hj => by omega⟩
  obtain ⟨r, r', hr, hr', hpage, hfailed, hagain⟩ : ∃ r r',
      startupTicks[0]? = some r ∧ startupTicks[1]? = some r' ∧
      .fetched (query .usual ⟨0, 0⟩ ⟨none, false, none⟩) (.ok [laterPayment, retryPayment]) ∈
        r.calls ∧
      ¬ r.Succeeded ∧ laterPayment ∈ r'.dispatched := by
    rw [startupTicks_eq]
    refine ⟨_, _, rfl, rfl, List.mem_cons_self, ?_, List.mem_cons_self⟩
    rintro ⟨report, s, hvalue⟩
    cases hvalue
  have hdescends : [laterPayment, retryPayment].Pairwise
      fun newer older => older.txnId < newer.txnId := by
    rw [List.pairwise_pair]
    decide
  obtain ⟨hdispatched, hlater⟩ := (startup_history_not_replayed retryPoller _ habove hr hpage hfirst
    hdescends).1 rfl laterPayment [retryPayment] rfl
  exact ⟨habove, hfirst, r, r', hr, hfailed, hr', hagain, hdispatched,
    fun t ht => hlater 1 r' Nat.zero_lt_one hr' t ht retryPayment List.mem_cons_self⟩

end Poller

end WalletEvents
