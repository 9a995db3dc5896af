import WalletEvents.Proofs.Polling.Delivery

/-!
# Bursts of payments

Between two ticks a log may grow by more payments than a page has rows. Then the
page is full, and two things happen at once: the watermark goes up to the newest
payment of the page, and the window begins with the oldest one from then on. What
the page had no room for lies below the watermark and is not looked for again.

**The invariant** `Poller.CaughtUp` holds after every tick that goes well: nothing
that the log holds by then lies above the watermark, be it delivered or not.

**Result.** `Poller.delivered_iff_room` says which payments a burst costs. A payment
that a tick finds for the first time is delivered by some tick exactly when fewer
payments are newer by then than a page has rows; no number of further ticks makes
up for it.
-/

namespace WalletEvents

namespace PollingConfig

theorem pageRows_pos (config : PollingConfig) : 0 < config.pageRows :=
  Nat.lt_of_lt_of_le Nat.zero_lt_one (Nat.le_max_left _ _)

end PollingConfig

namespace Poller

/-- Ticks that are answered from a growing log and that all go well. -/
structure SmoothRun
    (config : PollingConfig) (log : Nat → List Transaction) (records : List TickRecord) :
    Prop extends GrowingLog log where
  since : ∀ k, ∀ t ∈ log k, t.isSince config.updatesFrom = true
  answers : ∀ k r, records[k]? = some r →
    ∀ query page, .fetched query (.ok page) ∈ r.calls → page = newest (log k) query
  succeeded : ∀ r ∈ records, r.Succeeded

/-- Nothing that the log holds lies above the watermark, and what will be added is in the window. -/
structure CaughtUp (log : Nat → List Transaction) (k : Nat) (s : PollState) : Prop where
  initialized : s.initialized = true
  below : ∀ t ∈ log k, t.isAbove s.watermark = false
  reached : ∀ low, s.watermark = some low → ∃ t ∈ log k, low ≤ t.txnId
  window : ∀ m, ∀ t ∈ log m, t.isAbove s.watermark = true → t.isSince s.updatesFrom = true

variable {config : PollingConfig} {log : Nat → List Transaction} {records : List TickRecord}
variable {k : Nat} {s : PollState} {t : Transaction}

/-- A page that is dealt with leaves nothing of the log above the watermark. -/
theorem caughtUp_onSuccess
    (hgrowing : GrowingLog log) {now : Instant} {plan : TickPlan}
    (hplanned : Planned config s (newest (log k) (query config now s)) plan)
    (hreached : ∀ low, s.watermark = some low → ∃ t ∈ log k, low ≤ t.txnId)
    (hwindow : ∀ m, ∀ t ∈ log m, t.isAbove s.watermark = true → t.isSince s.updatesFrom = true) :
    CaughtUp log k plan.onSuccess := by
  have hleaves := hplanned.leaves (.ok ())
  have hadvances := hplanned.onFailure_advances.trans hplanned.onSuccess_advances
  constructor
  · exact hleaves.initialized
  · intro t ht
    cases habove : t.isAbove s.watermark with
    | false =>
        by_contra hstill
        have hbefore := Transaction.isAbove_of_advances hadvances (by simpa using hstill)
        simp [habove] at hbefore
    | true =>
        obtain ⟨first, rest, hpage, hle⟩ := exists_newest (hgrowing.isLog k) (query config now s)
          config.pageRows_pos ht (hwindow k t ht habove)
        obtain ⟨high, hhigh, hfirst⟩ :=
          hplanned.exists_le_of_mem_page (hpage ▸ List.mem_cons_self : first ∈ _)
        rw [hhigh, Transaction.isAbove, decide_eq_false_iff_not]
        grind
  · intro low hlow
    rcases hleaves.watermark_le low hlow with hbefore | ⟨t, ht, hle⟩
    · exact hreached low hbefore
    · exact ⟨t, mem_of_mem_newest ht, hle⟩
  · intro m t ht habove
    have hfrom : plan.onSuccess.updatesFrom = plan.onFailure.updatesFrom := hleaves.updatesFrom
    rw [hfrom]
    rcases hplanned.updatesFrom_cases with hsame | ⟨first, rest, hpage, holdest⟩
    · rw [hsame]
      exact hwindow m t ht (Transaction.isAbove_of_advances hadvances habove)
    · rw [holdest]
      obtain ⟨high, hhigh, hfirst⟩ :=
        hplanned.exists_le_of_mem_page (hpage ▸ List.mem_cons_self : first ∈ _)
      rw [hhigh, Transaction.isAbove, decide_eq_true_eq] at habove
      exact hgrowing.isSince_oldestDate hpage.symm ht (by grind)

/-- What is new in the log is what lies above the watermark. -/
theorem CaughtUp.not_mem_iff
    (h : CaughtUp log k s) (hgrowing : GrowingLog log) {m : Nat} (ht : t ∈ log m) :
    t ∉ log k ↔ t.isAbove s.watermark = true := by
  constructor
  · intro hnew
    cases hlow : s.watermark with
    | none => rfl
    | some low =>
        obtain ⟨a, ha, hle⟩ := h.reached low hlow
        have hlt := hgrowing.lt_of_added ha ht hnew
        exact decide_eq_true (by grind)
  · intro habove hold
    have hbelow := h.below t hold
    simp [habove] at hbelow

/-- The log may grow before the next tick. -/
theorem CaughtUp.reached_succ
    (h : CaughtUp log k s) (hgrowing : GrowingLog log) {low : Int64} (hlow : s.watermark = some low) :
    ∃ t ∈ log (k + 1), low ≤ t.txnId := by
  obtain ⟨t, ht, hle⟩ := h.reached low hlow
  exact ⟨t, (hgrowing.grows k).subset ht, hle⟩

/-- The next batch is what is new in the log, as far as the page has room. -/
theorem CaughtUp.mem_batch_iff
    (h : CaughtUp log k s) (hgrowing : GrowingLog log) {now : Instant} {plan : TickPlan}
    (hplanned : Planned config s (newest (log (k + 1)) (query config now s)) plan)
    (ht : t ∈ log (k + 1)) (hnew : t ∉ log k) :
    t ∈ plan.batch ↔
      Int64.minValue < t.txnId ∧
      ((log (k + 1)).filter fun x => t.txnId < x.txnId).length < config.pageRows := by
  have habove := (h.not_mem_iff hgrowing ht).mp hnew
  have hsince := h.window (k + 1) t ht habove
  have hpage : t ∈ newest (log (k + 1)) (query config now s) ↔
      ((log (k + 1)).filter fun x => t.txnId < x.txnId).length < config.pageRows :=
    mem_newest_iff (hgrowing.isLog (k + 1)) ht hsince
  rw [hplanned.mem_batch_iff h.initialized, hpage]
  tauto

/-- **The invariant of smooth runs.** After every tick nothing of the log lies above the watermark. -/
theorem SmoothRun.caughtUp
    (h : SmoothRun config log records) (hfollows : Follows config (PollState.start config) records)
    {r : TickRecord} (hr : records[k]? = some r) :
    CaughtUp log k r.after := by
  induction k generalizing r with
  | zero =>
      obtain ⟨now, page, plan, hplanned, hfetched, -, hafter⟩ :=
        hfollows.succeeded_plan hr (h.succeeded r (List.mem_of_getElem? hr))
      obtain rfl := h.answers 0 r hr _ _ hfetched
      have hbefore : r.before = PollState.start config := hfollows.before_zero hr
      rw [hafter]
      refine caughtUp_onSuccess h.toGrowingLog hplanned ?_ ?_
      · rw [hbefore]
        rintro low ⟨⟩
      · rw [hbefore]
        exact fun m t ht _ => h.since m t ht
  | succ k ih =>
      obtain ⟨last, hlast⟩ := exists_of_succ hr
      obtain ⟨now, page, plan, hplanned, hfetched, -, hafter⟩ :=
        hfollows.succeeded_plan hr (h.succeeded r (List.mem_of_getElem? hr))
      obtain rfl := h.answers (k + 1) r hr _ _ hfetched
      have hbefore : CaughtUp log k r.before := hfollows.before_succ hlast hr ▸ ih hlast
      rw [hafter]
      exact caughtUp_onSuccess h.toGrowingLog hplanned
        (fun low hlow => hbefore.reached_succ h.toGrowingLog hlow) hbefore.window

/-- A tick dispatches only what is in the log by then and was not there before. -/
theorem SmoothRun.new_of_dispatched
    (h : SmoothRun config log records) (hfollows : Follows config (PollState.start config) records)
    {r : TickRecord} (hr : records[k]? = some r) (ht : t ∈ r.dispatched) :
    t ∈ log k ∧ ∀ j < k, t ∉ log j := by
  obtain ⟨now, page, plan, hplanned, hfetched, hdispatched, -⟩ :=
    hfollows.succeeded_plan hr (h.succeeded r (List.mem_of_getElem? hr))
  obtain rfl := h.answers k r hr _ _ hfetched
  rw [hdispatched] at ht
  have hlog : t ∈ log k := mem_of_mem_newest (hplanned.mem_page ht)
  refine ⟨hlog, ?_⟩
  cases k with
  | zero => simp
  | succ k =>
      obtain ⟨last, hlast⟩ := exists_of_succ hr
      have hbefore : CaughtUp log k r.before :=
        hfollows.before_succ hlast hr ▸ h.caughtUp hfollows hlast
      have habove := ((hplanned.mem_batch_iff hbefore.initialized).mp ht).2.1
      intro j hj hold
      exact (hbefore.not_mem_iff h.toGrowingLog hlog).mpr habove
        ((h.prefix_of_le (Nat.le_of_lt_succ hj)).subset hold)

/-- What a run delivers of a burst is what had room on the page of the first tick after it. No tick
before finds the payment, and to no tick after it is the payment new. -/
theorem SmoothRun.delivered_iff
    (h : SmoothRun config log records) (hfollows : Follows config (PollState.start config) records)
    (hlen : k + 1 < records.length) (ht : t ∈ log (k + 1)) (hnew : t ∉ log k) :
    (∃ j, DeliveredIn records j t) ↔
      Int64.minValue < t.txnId ∧
      ((log (k + 1)).filter fun x => t.txnId < x.txnId).length < config.pageRows := by
  have hr : records[k + 1]? = some records[k + 1] := List.getElem?_eq_getElem hlen
  obtain ⟨last, hlast⟩ := exists_of_succ hr
  have hok := h.succeeded _ (List.mem_of_getElem? hr)
  obtain ⟨now, page, plan, hplanned, hfetched, hdispatched, -⟩ := hfollows.succeeded_plan hr hok
  obtain rfl := h.answers (k + 1) _ hr _ _ hfetched
  have hbefore : CaughtUp log k records[k + 1].before :=
    hfollows.before_succ hlast hr ▸ h.caughtUp hfollows hlast
  rw [← hbefore.mem_batch_iff h.toGrowingLog hplanned ht hnew, ← hdispatched]
  constructor
  · rintro ⟨j, r, hrj, -, hmem⟩
    obtain ⟨hin, hfresh⟩ := h.new_of_dispatched hfollows hrj hmem
    have hle : ¬ j ≤ k := fun hle => hnew ((h.prefix_of_le hle).subset hin)
    have hge : ¬ k + 1 < j := fun hlt => hfresh (k + 1) hlt ht
    obtain rfl : j = k + 1 := by omega
    rw [hr] at hrj
    exact Option.some.inj hrj ▸ hmem
  · intro hmem
    exact ⟨k + 1, _, hr, hok, hmem⟩

variable {σ : Type}

/--
**What a burst costs.** In ticks that are answered from a log and all go well, a payment that was
added to the log between two ticks is delivered by some tick of the run, however long that is,
exactly when its identifier is not the least of all and fewer payments than a page has rows are newer
by the time of the second tick.
-/
theorem delivered_iff_room
    (p : Poller σ) (starts : List (Nat × σ)) (log : Nat → List Transaction)
    (hsmooth : SmoothRun p.config log (p.ticks (PollState.start p.config) starts))
    (hlen : k + 1 < (p.ticks (PollState.start p.config) starts).length)
    (ht : t ∈ log (k + 1)) (hnew : t ∉ log k) :
    (∃ j, DeliveredIn (p.ticks (PollState.start p.config) starts) j t) ↔
      Int64.minValue < t.txnId ∧
      ((log (k + 1)).filter fun x => t.txnId < x.txnId).length < p.config.pageRows :=
  hsmooth.delivered_iff (follows_ticks p _ starts) hlen ht hnew

/-- The payment that comes a second after the small one. -/
def laterPayment : Transaction :=
  { retryPayment with txnId := 2, date := ⟨retryPayment.date.date, 1, 0, 0, by decide⟩ }

/-- A poller for pages of one row, whose world is the log that it is served from and whose handler
never fails. -/
def narrowPoller : Poller (List Transaction) where
  config := { PollingConfig.usual with rows := 1 }
  service := .ofHistory fun query => .read fun log => .ok (newest log query)
  dispatcher := Dispatcher.empty.register .transaction ⟨[], fun _ => .done .handled⟩
  clock _ := ⟨0, 0⟩

/-- Both payments come after the first tick. -/
def burstLog (k : Nat) : List Transaction := if k = 0 then [] else [retryPayment, laterPayment]

/-- A tick before the burst, one after it, and any number of further ones. -/
def burstTicks (further : Nat) : List TickRecord :=
  narrowPoller.ticks (PollState.start narrowPoller.config)
    ((0, []) :: (0, [retryPayment, laterPayment]) ::
      List.replicate further (0, [retryPayment, laterPayment]))

/-- What is remembered once the page with the later payment has come. -/
def afterBurst : PollState := ⟨some 2, true, some ⟨1, 0⟩⟩

/-- The record of a tick that finds the later payment again. -/
def idleRecord : TickRecord :=
  ⟨afterBurst,
    [.fetched (query narrowPoller.config ⟨0, 0⟩ afterBurst) (.ok [laterPayment]), .handed []],
    some (.ok ⟨1, 0, 0, true⟩, afterBurst)⟩

theorem plan?_laterPayment :
    plan? narrowPoller.config ⟨none, true, none⟩ [laterPayment] =
      some ⟨⟨none, true, some ⟨1, 0⟩⟩, [laterPayment], afterBurst, ⟨1, 1, 0, true⟩⟩ := by
  have hfresh : fresh Int64.minValue [laterPayment] = [laterPayment] := by
    have hfilter : [laterPayment].filter (fun t => Int64.minValue < t.txnId) = [laterPayment] := rfl
    rw [fresh, hfilter, List.mergeSort_singleton]
  have hplan : plan? narrowPoller.config ⟨none, true, none⟩ [laterPayment] =
      some ⟨⟨none, true, some ⟨1, 0⟩⟩, fresh Int64.minValue [laterPayment], afterBurst,
        ⟨1, (fresh Int64.minValue [laterPayment]).length, 0, true⟩⟩ := rfl
  rw [hplan, hfresh]
  rfl

theorem plan?_idle :
    plan? narrowPoller.config afterBurst [laterPayment] =
      some ⟨afterBurst, [], afterBurst, ⟨1, 0, 0, true⟩⟩ := by
  have hfresh : fresh 2 [laterPayment] = [] := by
    have hfilter : [laterPayment].filter (fun t => (2 : Int64) < t.txnId) = [] := rfl
    rw [fresh, hfilter, List.mergeSort_nil]
  have hplan : plan? narrowPoller.config afterBurst [laterPayment] =
      some ⟨afterBurst, fresh 2 [laterPayment], afterBurst,
        ⟨1, (fresh 2 [laterPayment]).length, 0, true⟩⟩ := rfl
  rw [hplan, hfresh]
  rfl

theorem ticks_idle (further : Nat) :
    narrowPoller.ticks afterBurst
      (List.replicate further (0, [retryPayment, laterPayment])) =
        List.replicate further idleRecord := by
  have hnothing : (narrowPoller.dispatcher.feedEvents []).run 0 [retryPayment, laterPayment] =
      (some (.ok ()), 0, [retryPayment, laterPayment]) := by
    rw [Dispatcher.feedEvents_nil]
    rfl
  induction further with
  | zero => rfl
  | succ further ih =>
      rw [List.replicate_succ, List.replicate_succ,
        ticks_cons_handed rfl plan?_idle hnothing, ← ih]
      rfl

theorem burstTicks_eq (further : Nat) :
    burstTicks further =
      let asked := query narrowPoller.config ⟨0, 0⟩ ⟨none, false, none⟩
      ⟨⟨none, false, none⟩, [.fetched asked (.ok []), .handed []],
          some (.ok ⟨0, 0, 0, false⟩, ⟨none, true, none⟩)⟩ ::
        ⟨⟨none, true, none⟩,
          [.fetched asked (.ok [laterPayment]), .handed [.transaction laterPayment]],
          some (.ok ⟨1, 1, 0, true⟩, afterBurst)⟩ ::
        List.replicate further idleRecord := by
  have hempty : (narrowPoller.dispatcher.feedEvents []).run 0 [] = (some (.ok ()), 0, []) := by
    rw [Dispatcher.feedEvents_nil]
    rfl
  have hdone : (narrowPoller.dispatcher.feedEvents [.transaction laterPayment]).run 0
      [retryPayment, laterPayment] = (some (.ok ()), 0, [retryPayment, laterPayment]) := by
    rw [Dispatcher.run_feedEvents_one]
    rfl
  have hstart : PollState.start narrowPoller.config = ⟨none, false, none⟩ := rfl
  have hplan : plan? narrowPoller.config ⟨none, false, none⟩ [] =
      some ⟨⟨none, true, none⟩, [], ⟨none, true, none⟩, ⟨0, 0, 0, false⟩⟩ := rfl
  rw [burstTicks, hstart, ticks_cons_handed rfl hplan hempty]
  simp only [settle]
  rw [ticks_cons_handed rfl plan?_laterPayment hdone, ← ticks_idle]
  rfl

theorem isLog_burst : IsLog [retryPayment, laterPayment] := by
  rw [IsLog, List.pairwise_pair]
  decide

theorem smoothRun_burstTicks (further : Nat) :
    SmoothRun narrowPoller.config burstLog (burstTicks further) := by
  rw [burstTicks_eq]
  refine ⟨⟨?_, ?_⟩, ?_, ?_, ?_⟩
  · intro k
    cases k with
    | zero => exact List.nil_prefix
    | succ k => exact List.prefix_refl _
  · intro k
    cases k with
    | zero => exact .nil
    | succ k => exact isLog_burst
  · exact fun k t ht => rfl
  · intro k r hr query page hmem
    match k with
    | 0 =>
        cases hr
        simp only [List.mem_cons, reduceCtorEq, TickCall.fetched.injEq, Except.ok.injEq,
          List.not_mem_nil, or_false] at hmem
        obtain ⟨rfl, rfl⟩ := hmem
        rfl
    | 1 =>
        cases hr
        simp only [List.mem_cons, reduceCtorEq, TickCall.fetched.injEq, Except.ok.injEq,
          List.not_mem_nil, or_false] at hmem
        obtain ⟨rfl, rfl⟩ := hmem
        rfl
    | k + 2 =>
        obtain rfl : r = idleRecord := List.eq_of_mem_replicate (List.mem_of_getElem? hr)
        simp only [idleRecord, List.mem_cons, reduceCtorEq, TickCall.fetched.injEq,
          Except.ok.injEq, List.not_mem_nil, or_false] at hmem
        obtain ⟨rfl, rfl⟩ := hmem
        rfl
  · intro r hr
    simp only [List.mem_cons] at hr
    rcases hr with rfl | rfl | hr
    · exact ⟨_, _, rfl⟩
    · exact ⟨_, _, rfl⟩
    · obtain rfl := List.eq_of_mem_replicate hr
      exact ⟨_, _, rfl⟩

/-- The later payment has room on its page and is delivered. -/
theorem delivered_iff_room_of_burst :
    SmoothRun narrowPoller.config burstLog (burstTicks 0) ∧
    1 < (burstTicks 0).length ∧
    laterPayment ∈ burstLog 1 ∧ laterPayment ∉ burstLog 0 ∧
    ∃ j, DeliveredIn (burstTicks 0) j laterPayment := by
  have hlen : 1 < (burstTicks 0).length := by
    rw [burstTicks_eq]
    decide
  have hin : laterPayment ∈ burstLog 1 := by decide
  have hnew : laterPayment ∉ burstLog 0 := by decide
  refine ⟨smoothRun_burstTicks 0, hlen, hin, hnew, ?_⟩
  have hroom : Int64.minValue < laterPayment.txnId ∧
      ((burstLog 1).filter fun x => laterPayment.txnId < x.txnId).length <
        narrowPoller.config.pageRows := by
    decide
  exact (delivered_iff_room (k := 0) narrowPoller _ burstLog (smoothRun_burstTicks 0) hlen hin
    hnew).mpr hroom

/-- The earlier payment is lost: it comes after the first tick, all ticks go well, and no number of
further ones delivers it. -/
theorem burst_loses_payment :
    retryPayment ∈ burstLog 1 ∧ retryPayment ∉ burstLog 0 ∧
    ∀ further,
      SmoothRun narrowPoller.config burstLog (burstTicks further) ∧
      (burstTicks further).length = further + 2 ∧
      ¬ ∃ j, DeliveredIn (burstTicks further) j retryPayment := by
  have hin : retryPayment ∈ burstLog 1 := by decide
  have hnew : retryPayment ∉ burstLog 0 := by decide
  refine ⟨hin, hnew, fun further => ?_⟩
  have hlen : (burstTicks further).length = further + 2 := by
    rw [burstTicks_eq]
    simp
  have hsmooth := smoothRun_burstTicks further
  refine ⟨hsmooth, hlen, ?_⟩
  rw [hsmooth.delivered_iff (follows_ticks narrowPoller _ _) (by omega) hin hnew]
  decide

end Poller

end WalletEvents
