import Mathlib.Tactic.IntervalCases
import WalletEvents.Proofs.Dispatch.Batch
import WalletEvents.Proofs.Polling.Log
import WalletEvents.Proofs.Polling.Watermark

/-!
# Delivery of a log

A poller that is served from a log hands every payment over exactly once that is
added to the log after the first page, no matter how often the service or a
handler fails in between, as long as the payments above the watermark find room
on a page.

**The invariant** `Poller.Settled` is about what the poller remembers after a
tick:

* what lies above the watermark lies in the window that will be asked for;
* the log has come as far as the watermark;
* what was added to the log after the first page and does not lie above the
  watermark has been delivered.

It holds after the tick with the first page (`Poller.settled_first`), and every
later tick preserves it, be it that the log grows (`Poller.Settled.grow`) or that
a page comes (`Poller.Settled.step`).
-/

namespace WalletEvents

/-- The payment was handed over in a tick that went well. -/
def DeliveredIn (records : List TickRecord) (j : Nat) (t : Transaction) : Prop :=
  ∃ r, records[j]? = some r ∧ r.Succeeded ∧ t ∈ r.dispatched

namespace Poller

/-- Ticks that are served from a log, which each tick finds as it has become by then. -/
structure ServedFrom
    (config : PollingConfig) (log : Nat → List Transaction) (records : List TickRecord) :
    Prop where
  grows : ∀ k, log k <+: log (k + 1)
  isLog : ∀ k, IsLog (log k)
  since : ∀ k, ∀ t ∈ log k, t.isSince config.updatesFrom = true
  least_lt : ∀ k, ∀ t ∈ log k, Int64.minValue < t.txnId
  answers : ∀ k r, records[k]? = some r →
    ∀ query page, .fetched query (.ok page) ∈ r.calls → page = newest (log k) query
  /-- At every page but the first there is room for all that lies above the watermark. -/
  room : ∀ j k rj rk, j < k →
    records[j]? = some rj → rj.Fetched → records[k]? = some rk → rk.Fetched →
    ((log k).filter fun t => t.isAbove rk.before.watermark).length ≤ config.pageRows

/-- The tick is the first one that was answered with a page. -/
def FirstFetch (records : List TickRecord) (first : Nat) : Prop :=
  (∃ r, records[first]? = some r ∧ r.Fetched) ∧
    ∀ j r, j < first → records[j]? = some r → ¬ r.Fetched

variable {config : PollingConfig} {log : Nat → List Transaction} {records : List TickRecord}

theorem ServedFrom.growing (h : ServedFrom config log records) : GrowingLog log :=
  ⟨h.grows, h.isLog⟩

/-- What is remembered after a tick fits what has been delivered of the log. -/
structure Settled
    (log : Nat → List Transaction) (records : List TickRecord) (first k : Nat) (s : PollState) :
    Prop where
  initialized : s.initialized = true
  window : ∀ m, ∀ t ∈ log m, t.isAbove s.watermark = true → t.isSince s.updatesFrom = true
  reached : ∀ low, s.watermark = some low → ∃ t ∈ log k, low ≤ t.txnId
  delivered : ∀ t ∈ (log k).drop (log first).length, t.isAbove s.watermark = false →
    ∃ j ≤ k, DeliveredIn records j t

theorem settled_first
    (hserved : ServedFrom config log records) {first : Nat} {s s' : PollState}
    {query : HistoryQuery} {plan : TickPlan} (hstart : s = PollState.start config)
    (hplanned : Planned config s (newest (log first) query) plan)
    (hleaves : Leaves s (newest (log first) query) plan s') :
    Settled log records first first s' := by
  constructor
  · exact hleaves.initialized
  · intro m t ht habove
    have habove' := Transaction.isAbove_of_advances hleaves.advances habove
    rw [hleaves.updatesFrom]
    rcases hplanned.updatesFrom_cases with hfrom | ⟨newestOne, rest, hpage, hfrom⟩
    · rw [hfrom, hstart]
      exact hserved.since m t ht
    · rw [hfrom]
      have hle := hplanned.le_of_isAbove (hstart ▸ rfl) (hstart ▸ rfl) hpage habove'
      exact hserved.growing.isSince_oldestDate hpage.symm ht hle
  · intro low hlow
    rcases hleaves.watermark_le low hlow with hbefore | ⟨t, ht, hle⟩
    · rw [hstart] at hbefore
      cases hbefore
    · exact ⟨t, mem_of_mem_newest ht, hle⟩
  · intro t ht
    simp at ht

namespace Settled

variable {first k : Nat} {s s' : PollState}

/-- What is added to the log lies above the watermark. -/
theorem grow
    (h : Settled log records first k s) (hserved : ServedFrom config log records)
    (hle : first ≤ k) :
    Settled log records first (k + 1) s := by
  constructor
  · exact h.initialized
  · exact h.window
  · intro low hlow
    obtain ⟨t, ht, hreached⟩ := h.reached low hlow
    exact ⟨t, (hserved.grows k).subset ht, hreached⟩
  · intro t ht hbelow
    by_cases hold : t ∈ log k
    · obtain ⟨j, hj, hdelivered⟩ := h.delivered t (hserved.growing.mem_drop_succ hle ht hold) hbelow
      exact ⟨j, by omega, hdelivered⟩
    · cases hlow : s.watermark with
      | none =>
          rw [hlow] at hbelow
          cases hbelow
      | some low =>
          obtain ⟨a, ha, hreached⟩ := h.reached low hlow
          have hlt := hserved.growing.lt_of_added ha (List.mem_of_mem_drop ht) hold
          rw [hlow] at hbelow
          have hnot : ¬ low < t.txnId := of_decide_eq_false hbelow
          grind

/-- A page has all payments above the watermark. -/
theorem mem_page
    (h : Settled log records first k s) (hserved : ServedFrom config log records)
    (hroom : ((log k).filter fun t => t.isAbove s.watermark).length ≤ config.pageRows)
    (now : Instant) {t : Transaction} (ht : t ∈ log k) (habove : t.isAbove s.watermark = true) :
    t ∈ newest (log k) (query config now s) :=
  mem_newest (hserved.isLog k) hroom ht habove (h.window k t ht habove)

/-- A page leaves everything above the watermark in the window, as what it could not hold is newer than
all that it holds. -/
theorem step
    (h : Settled log records first k s) (hserved : ServedFrom config log records)
    (hroom : ((log k).filter fun t => t.isAbove s.watermark).length ≤ config.pageRows)
    {now : Instant} {plan : TickPlan}
    (hplanned : Planned config s (newest (log k) (query config now s)) plan)
    (hleaves : Leaves s (newest (log k) (query config now s)) plan s')
    (hbatch : ∀ t ∈ plan.batch, t.isAbove s.watermark = true → t.isAbove s'.watermark = false →
      DeliveredIn records k t) :
    Settled log records first k s' := by
  have hadvances := hplanned.onFailure_advances.trans hleaves.advances
  constructor
  · exact hleaves.initialized
  · intro m t ht habove
    have habove' := Transaction.isAbove_of_advances hadvances habove
    rw [hleaves.updatesFrom]
    rcases hplanned.updatesFrom_cases with hfrom | ⟨newestOne, rest, hpage, hfrom⟩
    · rw [hfrom]
      exact h.window m t ht habove'
    · rw [hfrom]
      by_cases hold : t ∈ log k
      · have hmem := h.mem_page hserved hroom now hold habove'
        rw [hpage] at hmem
        simp [Transaction.isSince, not_lt_oldestDate newestOne rest hmem]
      · have hnewest : newestOne ∈ log k := mem_of_mem_newest (hpage ▸ List.mem_cons_self)
        have hlt := hserved.growing.lt_of_added hnewest ht hold
        exact hserved.growing.isSince_oldestDate hpage.symm ht (by grind)
  · intro low hlow
    rcases hleaves.watermark_le low hlow with hbefore | ⟨t, ht, hle⟩
    · exact h.reached low hbefore
    · exact ⟨t, mem_of_mem_newest ht, hle⟩
  · intro t ht hbelow
    cases habove : t.isAbove s.watermark with
    | false => exact h.delivered t ht habove
    | true =>
        have hlog := List.mem_of_mem_drop ht
        have hmem := hplanned.mem_batch h.initialized
          (h.mem_page hserved hroom now hlog habove) habove (hserved.least_lt k t hlog)
        exact ⟨k, Nat.le_refl k, hbatch t hmem habove hbelow⟩

end Settled

theorem exists_of_succ {k : Nat} {r : TickRecord} (hr : records[k + 1]? = some r) :
    ∃ last, records[k]? = some last := by
  have hlt := (List.getElem?_eq_some_iff.mp hr).1
  exact ⟨records[k], List.getElem?_eq_getElem (by omega)⟩

/-- What the next tick finds: all as it was if no page came, or else what the page left behind. -/
theorem Follows.next_cases
    {s : PollState} (hfollows : Follows config s records) {k : Nat} {r r' : TickRecord}
    (hr : records[k]? = some r) (hr' : records[k + 1]? = some r') :
    (¬ r.Fetched ∧ r'.before = r.before) ∨
    ∃ now page plan ended,
      Planned config r.before page plan ∧
      .fetched (query config now r.before) (.ok page) ∈ r.calls ∧
      r'.before = (settle plan ended).2 ∧
      (ended = .ok () → r.Succeeded ∧ r.dispatched = plan.batch) := by
  obtain ⟨result, hvalue⟩ := hfollows.value_of_succ hr hr'
  have houtcome := hfollows.outcome r (List.mem_of_getElem? hr)
  rw [hvalue] at houtcome
  rcases houtcome.ended_inv with ⟨now, failure, hcalls, hresult, heq⟩ |
    ⟨now, page, plan, ended, hplan, hcalls, hsettle⟩
  · left
    refine ⟨?_, heq⟩
    rintro ⟨query, page, hmem⟩
    simp [hcalls] at hmem
  · right
    refine ⟨now, page, plan, ended, planned_of_plan? hplan, ?_, congrArg Prod.snd hsettle, ?_⟩
    · rw [hcalls]
      exact List.mem_cons_self
    · rintro rfl
      obtain rfl : result = .ok plan.report := congrArg Prod.fst hsettle
      exact ⟨⟨_, _, hvalue⟩, by simp [TickRecord.dispatched, hcalls]⟩

/-- Nothing is remembered as long as no page has come. -/
theorem Follows.before_eq_start
    {s : PollState} (hfollows : Follows config s records) {k : Nat} {r : TickRecord}
    (hr : records[k]? = some r)
    (hnone : ∀ j r, j < k → records[j]? = some r → ¬ r.Fetched) :
    r.before = s := by
  induction k generalizing r with
  | zero => exact hfollows.before_zero hr
  | succ k ih =>
      obtain ⟨last, hlast⟩ := exists_of_succ hr
      have hbefore := ih hlast fun j r hj => hnone j r (by omega)
      rcases hfollows.next_cases hlast hr with ⟨-, hsame⟩ | ⟨now, page, plan, ended, -, hmem, -⟩
      · exact hsame.trans hbefore
      · exact absurd ⟨_, page, hmem⟩ (hnone k last (by omega) hlast)

/-- In two ticks that went well there is no payment in common. -/
theorem Follows.deliveredIn_unique
    {s : PollState} (hfollows : Follows config s records) {i j : Nat} {t : Transaction}
    (hi : DeliveredIn records i t) (hj : DeliveredIn records j t) :
    i = j := by
  have hnever : ∀ {i j : Nat}, DeliveredIn records i t → DeliveredIn records j t → ¬ i < j := by
    rintro i j ⟨r, hr, hok, ht⟩ ⟨r', hr', hok', ht'⟩ hij
    obtain ⟨hi, rfl⟩ := List.getElem?_eq_some_iff.mp hr
    obtain ⟨hj, rfl⟩ := List.getElem?_eq_some_iff.mp hr'
    have hlt := List.pairwise_iff_getElem.mp hfollows.pairwise_dispatched i j hi hj hij hok
      t ht t ht'
    grind
  have hij := hnever hi hj
  have hji := hnever hj hi
  omega

/-- A tick that is followed by another one keeps the log settled. -/
theorem Settled.step_record
    {first k : Nat} {r r' : TickRecord} (h : Settled log records first k r.before)
    (hfollows : Follows config (PollState.start config) records)
    (hserved : ServedFrom config log records)
    (hroom : r.Fetched →
      ((log k).filter fun t => t.isAbove r.before.watermark).length ≤ config.pageRows)
    (hr : records[k]? = some r) (hr' : records[k + 1]? = some r') :
    Settled log records first k r'.before := by
  rcases hfollows.next_cases hr hr' with ⟨-, hsame⟩ |
    ⟨now, page, plan, ended, hplanned, hfetched, hafter, hdone⟩
  · exact hsame ▸ h
  · obtain rfl := hserved.answers k r hr _ _ hfetched
    have hleaves := hplanned.leaves ended
    rw [← hafter] at hleaves
    refine h.step hserved (hroom ⟨_, _, hfetched⟩) hplanned hleaves ?_
    intro t ht habove hbelow
    cases ended with
    | error e =>
        have hsame : r'.before.watermark = r.before.watermark := by
          rw [hafter]
          exact hplanned.onFailure_watermark h.initialized
        rw [hsame, habove] at hbelow
        cases hbelow
    | ok done =>
        obtain ⟨hok, hdispatched⟩ := hdone rfl
        exact ⟨r, hr, hok, hdispatched ▸ ht⟩

/-- **The invariant of runs.** The log is settled before every tick after the first page. -/
theorem settled_before
    (hfollows : Follows config (PollState.start config) records)
    (hserved : ServedFrom config log records) {first : Nat} (hfirst : FirstFetch records first)
    {k : Nat} (hle : first ≤ k) {r : TickRecord} (hr : records[k + 1]? = some r) :
    Settled log records first k r.before := by
  obtain ⟨⟨rfirst, hrfirst, hfetched⟩, hnone⟩ := hfirst
  induction hle generalizing r with
  | refl =>
      have hbefore := hfollows.before_eq_start hrfirst hnone
      rcases hfollows.next_cases hrfirst hr with ⟨hnot, -⟩ |
        ⟨now, page, plan, ended, hplanned, hmem, hafter, -⟩
      · exact absurd hfetched hnot
      · obtain rfl := hserved.answers first rfirst hrfirst _ _ hmem
        exact settled_first hserved hbefore hplanned (hafter ▸ hplanned.leaves ended)
  | @step k hle ih =>
      obtain ⟨last, hlast⟩ := exists_of_succ hr
      have hsettled := (ih hlast).grow hserved hle
      refine hsettled.step_record hfollows hserved (fun hlastFetched => ?_) hlast hr
      exact hserved.room first (k + 1) rfirst last (Nat.lt_succ_of_le hle) hrfirst hfetched hlast
        hlastFetched

/-- A tick that went well has handed over the batch of its page and left the rest to remember. -/
theorem Follows.succeeded_plan
    {s : PollState} (hfollows : Follows config s records) {k : Nat} {r : TickRecord}
    (hr : records[k]? = some r) (hok : r.Succeeded) :
    ∃ now page plan,
      Planned config r.before page plan ∧
      .fetched (query config now r.before) (.ok page) ∈ r.calls ∧
      r.dispatched = plan.batch ∧ r.after = plan.onSuccess := by
  obtain ⟨report, s', hvalue⟩ := hok
  have houtcome := hfollows.outcome r (List.mem_of_getElem? hr)
  rw [hvalue] at houtcome
  obtain ⟨now, page, plan, hplan, hcalls, rfl⟩ := houtcome.succeeded_inv
  refine ⟨now, page, plan, planned_of_plan? hplan, ?_, ?_, ?_⟩
  · rw [hcalls]
    exact List.mem_cons_self
  · simp [TickRecord.dispatched, hcalls]
  · simp [TickRecord.after, hvalue]

theorem Follows.before_succ
    {s : PollState} (hfollows : Follows config s records) {k : Nat} {r r' : TickRecord}
    (hr : records[k]? = some r) (hr' : records[k + 1]? = some r') :
    r'.before = r.after := by
  obtain ⟨result, hvalue⟩ := hfollows.value_of_succ hr hr'
  simp [TickRecord.after, hvalue]

/-- A tick that went well has handed over the batch of its page. -/
theorem Follows.succeeded_inv
    {s : PollState} (hfollows : Follows config s records) {k : Nat} {r : TickRecord}
    (hr : records[k]? = some r) (hok : r.Succeeded) :
    ∃ now page plan,
      Planned config r.before page plan ∧
      .fetched (query config now r.before) (.ok page) ∈ r.calls ∧
      r.dispatched = plan.batch := by
  obtain ⟨now, page, plan, hplanned, hfetched, hdispatched, -⟩ := hfollows.succeeded_plan hr hok
  exact ⟨now, page, plan, hplanned, hfetched, hdispatched⟩

/-- A tick that went well dispatches all that was above the watermark. -/
theorem Settled.mem_dispatched
    {first k : Nat} {r : TickRecord} (h : Settled log records first k r.before)
    (hfollows : Follows config (PollState.start config) records)
    (hserved : ServedFrom config log records)
    (hroom : r.Fetched →
      ((log k).filter fun t => t.isAbove r.before.watermark).length ≤ config.pageRows)
    (hr : records[k]? = some r) (hok : r.Succeeded)
    {t : Transaction} (ht : t ∈ log k) (habove : t.isAbove r.before.watermark = true) :
    t ∈ r.dispatched := by
  obtain ⟨now, page, plan, hplanned, hfetched, hdispatched⟩ := hfollows.succeeded_inv hr hok
  obtain rfl := hserved.answers k r hr _ _ hfetched
  have hpage := h.mem_page hserved (hroom ⟨_, _, hfetched⟩) now ht habove
  rw [hdispatched]
  exact hplanned.mem_batch h.initialized hpage habove (hserved.least_lt k t ht)

variable {σ : Type}

/--
**Exactly-once delivery.** When ticks are served from a log and there is room for all that lies above
the watermark, then after each tick that goes well every payment that was added to the log after the
first page has been handed over in one tick that went well, and in no other one of the whole run.
-/
theorem exactly_once
    (p : Poller σ) (starts : List (Nat × σ)) (log : Nat → List Transaction)
    (hserved : ServedFrom p.config log (p.ticks (PollState.start p.config) starts))
    {first k : Nat} {r : TickRecord}
    (hfirst : FirstFetch (p.ticks (PollState.start p.config) starts) first)
    (hr : (p.ticks (PollState.start p.config) starts)[k]? = some r) (hok : r.Succeeded)
    {t : Transaction} (ht : t ∈ (log k).drop (log first).length) :
    ∃ j ≤ k,
      DeliveredIn (p.ticks (PollState.start p.config) starts) j t ∧
      ∀ i, DeliveredIn (p.ticks (PollState.start p.config) starts) i t → i = j := by
  have hfollows := follows_ticks p (PollState.start p.config) starts
  generalize p.ticks (PollState.start p.config) starts = records at *
  suffices hdelivered : ∃ j ≤ k, DeliveredIn records j t by
    obtain ⟨j, hj, hdelivered⟩ := hdelivered
    exact ⟨j, hj, hdelivered, fun i hi => hfollows.deliveredIn_unique hi hdelivered⟩
  obtain ⟨now, page, plan, hplanned, hfetched, hdispatched⟩ := hfollows.succeeded_inv hr hok
  have hle : first ≤ k := by
    by_contra hlt
    exact hfirst.2 k r (by omega) hr ⟨_, page, hfetched⟩
  rcases Nat.eq_or_lt_of_le hle with rfl | hlt
  · simp at ht
  · obtain ⟨m, rfl⟩ : ∃ m, k = m + 1 := ⟨k - 1, by omega⟩
    have hsettled := (settled_before hfollows hserved hfirst (Nat.le_of_lt_succ hlt) hr).grow
      hserved (Nat.le_of_lt_succ hlt)
    obtain ⟨rfirst, hrfirst, hfirstFetched⟩ := hfirst.1
    cases habove : t.isAbove r.before.watermark with
    | false => exact hsettled.delivered t ht habove
    | true =>
        refine ⟨m + 1, Nat.le_refl _, r, hr, hok, ?_⟩
        refine hsettled.mem_dispatched hfollows hserved (fun hfetched => ?_) hr hok
          (List.mem_of_mem_drop ht) habove
        exact hserved.room first (m + 1) rfirst r hlt hrfirst hfirstFetched hr hfetched

/-- A small payment. -/
def retryPayment : Transaction where
  txnId := 1
  personId := none
  date := ⟨⟨1970, 1, 1, by decide⟩, 0, 0, 0, by decide⟩
  errorCode := none
  error := none
  status := .success
  type := .incoming
  statusText := none
  trmTxnId := none
  account := none
  sum := ⟨.integer 1 (by decide), 643⟩
  commission := none
  total := none
  provider := none
  comment := none
  currencyRate := none

/-- A poller whose world is the log that it is served from, and whose handler fails at first. -/
def retryPoller : Poller (List Transaction) where
  config := .usual
  service := .ofHistory fun query => .read fun log => .ok (newest log query)
  dispatcher := Dispatcher.empty.register .transaction
    ⟨[], fun _ => .modifyGet fun t log => (if t = 0 then .failed ⟨"not yet"⟩ else .handled, log)⟩
  clock _ := ⟨0, 0⟩

/-- The payment comes after the first tick. -/
def retryLog (k : Nat) : List Transaction := if k = 0 then [] else [retryPayment]

/-- The handler fails in the second tick, but not in the third. -/
def retryTicks : List TickRecord :=
  retryPoller.ticks (PollState.start retryPoller.config)
    [(0, []), (0, [retryPayment]), (1, [retryPayment])]

theorem plan?_retryPayment :
    plan? .usual ⟨none, true, none⟩ [retryPayment] =
      some ⟨⟨none, true, none⟩, [retryPayment], ⟨some 1, true, none⟩, ⟨1, 1, 0, false⟩⟩ := by
  have hfilter : [retryPayment].filter (fun t => Int64.minValue < t.txnId) = [retryPayment] := rfl
  have hfresh : fresh Int64.minValue [retryPayment] = [retryPayment] := by
    rw [fresh, hfilter, List.mergeSort_singleton]
  have hplan : plan? .usual ⟨none, true, none⟩ [retryPayment] =
      some ⟨⟨none, true, none⟩, fresh Int64.minValue [retryPayment], ⟨some 1, true, none⟩,
        ⟨1, (fresh Int64.minValue [retryPayment]).length, 0, false⟩⟩ := rfl
  rw [hplan, hfresh]
  rfl

theorem retryTicks_eq :
    retryTicks =
      let asked := query .usual ⟨0, 0⟩ ⟨none, false, none⟩
      [⟨⟨none, false, none⟩, [.fetched asked (.ok []), .handed []],
          some (.ok ⟨0, 0, 0, false⟩, ⟨none, true, none⟩)⟩,
        ⟨⟨none, true, none⟩,
          [.fetched asked (.ok [retryPayment]), .handed [.transaction retryPayment]],
          some (.error (.dispatch (.unhandled .transaction ⟨"not yet"⟩)), ⟨none, true, none⟩)⟩,
        ⟨⟨none, true, none⟩,
          [.fetched asked (.ok [retryPayment]), .handed [.transaction retryPayment]],
          some (.ok ⟨1, 1, 0, false⟩, ⟨some 1, true, none⟩)⟩] := by
  have hempty : (retryPoller.dispatcher.feedEvents []).run 0 [] = (some (.ok ()), 0, []) := by
    rw [Dispatcher.feedEvents_nil]
    rfl
  have hfailed : (retryPoller.dispatcher.feedEvents [.transaction retryPayment]).run 0
      [retryPayment] =
        (some (.error (.unhandled .transaction ⟨"not yet"⟩)), 0, [retryPayment]) := by
    rw [Dispatcher.run_feedEvents_one]
    rfl
  have hdone : (retryPoller.dispatcher.feedEvents [.transaction retryPayment]).run 1
      [retryPayment] = (some (.ok ()), 1, [retryPayment]) := by
    rw [Dispatcher.run_feedEvents_one]
    rfl
  rw [retryTicks, ticks_cons_handed rfl rfl hempty,
    ticks_cons_handed rfl plan?_retryPayment hfailed,
    ticks_cons_handed rfl plan?_retryPayment hdone]
  rfl

theorem servedFrom_retryTicks : ServedFrom .usual retryLog retryTicks := by
  rw [retryTicks_eq]
  constructor
  · intro k
    cases k with
    | zero => exact List.nil_prefix
    | succ k => exact List.prefix_refl _
  · intro k
    cases k with
    | zero => exact .nil
    | succ k => exact List.pairwise_singleton _ _
  · exact fun k t ht => rfl
  · intro k t ht
    cases k with
    | zero => cases ht
    | succ k =>
        obtain rfl : t = retryPayment := List.mem_singleton.mp ht
        decide
  · intro k r hr query page hmem
    have hlt : k < 3 := (List.getElem?_eq_some_iff.mp hr).1
    interval_cases k
    all_goals
      cases hr
      simp only [List.mem_cons, reduceCtorEq, TickCall.fetched.injEq, Except.ok.injEq,
        List.not_mem_nil, or_false] at hmem
      obtain ⟨rfl, rfl⟩ := hmem
      rfl
  · intro j k rj rk hjk hrj hj hrk hk
    have hlen : (retryLog k).length ≤ 1 := by
      cases k <;> simp [retryLog]
    have hroom := List.length_filter_le (fun t => t.isAbove rk.before.watermark) (retryLog k)
    have hrows : PollingConfig.usual.pageRows = 50 := rfl
    omega

/-- The payment is delivered once, though it is handed over in two ticks. -/
theorem exactly_once_of_retry :
    ServedFrom retryPoller.config retryLog retryTicks ∧
    FirstFetch retryTicks 0 ∧
    (∃ r, retryTicks[2]? = some r ∧ r.Succeeded) ∧
    retryPayment ∈ (retryLog 2).drop (retryLog 0).length ∧
    ∃ j ≤ 2, DeliveredIn retryTicks j retryPayment ∧
      ∀ i, DeliveredIn retryTicks i retryPayment → i = j := by
  have hfirst : FirstFetch retryTicks 0 := by
    rw [retryTicks_eq]
    constructor
    · exact ⟨_, rfl, _, _, List.mem_cons_self⟩
    · intro j r hj
      omega
  have hok : ∃ r, retryTicks[2]? = some r ∧ r.Succeeded := by
    rw [retryTicks_eq]
    exact ⟨_, rfl, _, _, rfl⟩
  have hadded : retryPayment ∈ (retryLog 2).drop (retryLog 0).length := List.mem_cons_self
  refine ⟨servedFrom_retryTicks, hfirst, hok, hadded, ?_⟩
  obtain ⟨r, hr, hsucceeded⟩ := hok
  exact exactly_once retryPoller _ retryLog servedFrom_retryTicks hfirst hr hsucceeded hadded

end Poller

end WalletEvents
