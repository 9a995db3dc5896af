import WalletEvents.Proofs.Polling.Repeat

/-!
# The watermark and what was seen

The identifiers of payments are any 64-bit numbers. If a watermark ran ahead of
them, every later payment would lie below it and the poller would be deaf to all
of them. This module says that this does not happen, and which one of its
computations can fail.

**The watermark.** `Poller.WithinSeen` is the invariant: there is a payment on
one of the pages that have come whose identifier is not smaller. Every tick
preserves it, so what is greater than all that was seen is new.

**The threshold of the first page** is the identifier before that of its first
payment. Nothing else is computed, and there is no such identifier in one case
only: the first payment has the least one of all. Then the tick breaks off.

`Poller.watermark_within_seen` puts them together.
-/

namespace WalletEvents

/-- The tick was answered with this page. -/
def TickRecord.CameWith (r : TickRecord) (page : List Transaction) : Prop :=
  ∃ query, .fetched query (.ok page) ∈ r.calls

/-- The payment was on a page that came to one of the first `k` ticks. -/
def SeenBefore (records : List TickRecord) (k : Nat) (t : Transaction) : Prop :=
  ∃ j r page, j < k ∧ records[j]? = some r ∧ r.CameWith page ∧ t ∈ page

/-- The number before this one is not among the 64-bit numbers. -/
def LacksPredecessor (id : Int64) : Prop := (id - 1).toInt ≠ id.toInt - 1

theorem lacksPredecessor_iff {id : Int64} : LacksPredecessor id ↔ id = Int64.minValue := by
  have hone : (1 : Int64).toInt = 1 := rfl
  have hleast : Int64.minValue.toInt = -2 ^ 63 := rfl
  have hlow := Int64.le_toInt id
  have hhigh := Int64.toInt_lt id
  rw [LacksPredecessor, ← Int64.toInt_inj, Int64.toInt_sub, hone, hleast]
  constructor
  · intro hwraps
    by_contra hne
    exact hwraps (Int.bmod_eq_of_le (by omega) (by omega))
  · intro heq
    rw [heq]
    decide

namespace SeenBefore

variable {records : List TickRecord} {k m : Nat} {t : Transaction}

theorem mono (h : SeenBefore records k t) (hle : k ≤ m) : SeenBefore records m t := by
  obtain ⟨j, r, page, hj, hr, hpage, ht⟩ := h
  exact ⟨j, r, page, Nat.lt_of_lt_of_le hj hle, hr, hpage, ht⟩

theorem of_cameWith
    {r : TickRecord} {page : List Transaction} (hr : records[k]? = some r)
    (hpage : r.CameWith page) (ht : t ∈ page) :
    SeenBefore records (k + 1) t :=
  ⟨k, r, page, Nat.lt_succ_self k, hr, hpage, ht⟩

end SeenBefore

namespace Poller

variable {config : PollingConfig} {s s' : PollState} {page : List Transaction} {plan : TickPlan}
variable {records : List TickRecord} {r r' : TickRecord} {k : Nat}

/-- There is no plan for a page exactly if its threshold cannot be computed. -/
theorem plan?_eq_none_iff :
    plan? config s page = none ↔
      s.watermark = none ∧ s.initialized = false ∧ config.skipUpdates = false ∧
        ∃ first rest, page = first :: rest ∧ LacksPredecessor first.txnId := by
  cases page with
  | nil => simp [plan?]
  | cons first rest =>
      cases hlow : s.watermark with
      | some low => simp [plan?, hlow]
      | none =>
          cases hinit : s.initialized with
          | true => simp [plan?, hlow, hinit]
          | false =>
              cases hskip : config.skipUpdates <;>
                simp [plan?, hlow, hinit, hskip, lacksPredecessor_iff]

/-- The identifiers above the one before an identifier are that one and the greater ones. -/
theorem pred_lt_iff {first id : Int64} (hpred : ¬ LacksPredecessor first) :
    first - 1 < id ↔ first ≤ id := by
  have hseed : (first - 1).toInt = first.toInt - 1 := not_not.mp hpred
  rw [Int64.lt_iff_toInt_lt, Int64.le_iff_toInt_le, hseed]
  omega

/-- Of a first page that is not skipped all is new from the identifier of its first payment on. -/
theorem Planned.batch_perm_of_first
    {first : Transaction} {rest : List Transaction} (h : Planned config s (first :: rest) plan)
    (hnone : s.watermark = none) (hinit : s.initialized = false)
    (hskip : config.skipUpdates = false) (hpred : ¬ LacksPredecessor first.txnId) :
    plan.batch.Perm ((first :: rest).filter fun t => first.txnId ≤ t.txnId) := by
  cases h with
  | known _ _ hlow => simp [hnone] at hlow
  | unset _ _ hnone' hinit' => simp [hinit] at hinit'
  | skipped _ _ hnone' hinit' hskip' => simp [hskip] at hskip'
  | seeded _ _ hnone' hinit' hskip' hleast =>
      have hfresh := fresh_perm (first.txnId - 1) (first :: rest)
      rw [planFrom_batch]
      simpa only [pred_lt_iff hpred] using hfresh

namespace TickOutcome

variable {calls : List TickCall} {value : Option (Except Failure TickReport × PollState)}

/-- A tick hands nothing over to its dispatcher exactly if there is no plan for its page. -/
theorem handed_none_iff
    (h : TickOutcome config s calls value) {query : HistoryQuery}
    (hpage : .fetched query (.ok page) ∈ calls) :
    (∀ events, .handed events ∉ calls) ↔ plan? config s page = none := by
  constructor
  · intro hnone
    refine (h.fetched_inv hpage).resolve_right ?_
    rintro ⟨plan, ended, -, rfl, -⟩
    exact hnone _ (List.mem_cons_of_mem _ List.mem_cons_self)
  · intro hplan events hevents
    obtain ⟨query', page', plan, -, hcalls, -⟩ := h.handed_inv hevents
    rcases h.fetched_inv hpage with - | ⟨plan', ended, hplan', -, -⟩
    · cases h with
      | stuck => cases hevents
      | failed now failure => simp at hevents
      | broken now hplan' => simp at hevents
      | handed now hplan' ended =>
          obtain ⟨-, rfl⟩ : _ ∧ page = _ := by simpa using hpage
          simp [hplan] at hplan'
    · simp [hplan] at hplan'

/-- A watermark that a tick leaves behind was there before, or a payment on its page reaches up to
it. -/
theorem watermark_le
    {result : Except Failure TickReport} (h : TickOutcome config s calls (some (result, s')))
    {high : Int64} (hhigh : s'.watermark = some high) :
    s.watermark = some high ∨
      ∃ query page, .fetched query (.ok page) ∈ calls ∧ ∃ t ∈ page, high ≤ t.txnId := by
  rcases h.ended_inv with ⟨now, failure, -, -, rfl⟩ |
    ⟨now, page, plan, ended, hplan, hcalls, hsettle⟩
  · exact .inl hhigh
  · obtain rfl : s' = (settle plan ended).2 := congrArg Prod.snd hsettle
    refine (((planned_of_plan? hplan).leaves ended).watermark_le high hhigh).imp_right ?_
    intro hreached
    exact ⟨_, page, hcalls ▸ List.mem_cons_self, hreached⟩

end TickOutcome

/-- The watermark is not greater than all identifiers on the pages of the first `k` ticks. -/
def WithinSeen (records : List TickRecord) (k : Nat) (watermark : Option Int64) : Prop :=
  ∀ high, watermark = some high → ∃ t, SeenBefore records k t ∧ high ≤ t.txnId

namespace Follows

/-- A tick keeps the watermark within what was seen. -/
theorem withinSeen_after
    (h : Follows config s records) (hr : records[k]? = some r)
    (hbefore : WithinSeen records k r.before.watermark) :
    WithinSeen records (k + 1) r.after.watermark := by
  have hkept : WithinSeen records (k + 1) r.before.watermark := by
    intro high hhigh
    obtain ⟨t, ht, hle⟩ := hbefore high hhigh
    exact ⟨t, ht.mono (Nat.le_succ k), hle⟩
  have houtcome := h.outcome r (List.mem_of_getElem? hr)
  intro high hhigh
  cases hvalue : r.value with
  | none =>
      rw [TickRecord.after, hvalue] at hhigh
      exact hkept high hhigh
  | some value =>
      rw [TickRecord.after, hvalue] at hhigh
      rw [hvalue] at houtcome
      rcases houtcome.watermark_le hhigh with hsame | ⟨query, page, hpage, t, ht, hle⟩
      · exact hkept high hsame
      · exact ⟨t, .of_cameWith hr ⟨query, hpage⟩ ht, hle⟩

/-- **The invariant of runs.** Before every tick the watermark is within what was seen. -/
theorem withinSeen_before
    (h : Follows config (PollState.start config) records) (hr : records[k]? = some r) :
    WithinSeen records k r.before.watermark := by
  induction k generalizing r with
  | zero =>
      rw [h.before_zero hr]
      rintro high ⟨⟩
  | succ k ih =>
      obtain ⟨last, hlast⟩ := exists_of_succ hr
      rw [h.before_succ hlast hr]
      exact h.withinSeen_after hlast (ih hlast)

/-- Before a tick it is known whether a page has come already. -/
theorem initialized_before
    (h : Follows config s records) {j : Nat} (hj : j < k) (hr : records[j]? = some r)
    (hpage : r.Fetched) (hr' : records[k]? = some r') :
    r'.before.initialized = true := by
  induction hj generalizing r' with
  | refl =>
      rcases h.next_cases hr hr' with ⟨hnot, -⟩ | ⟨now, page, plan, ended, hplanned, -, hafter, -⟩
      · exact absurd hpage hnot
      · exact hafter ▸ (hplanned.leaves ended).initialized
  | @step k hj ih =>
      obtain ⟨last, hlast⟩ := exists_of_succ hr'
      rcases h.next_cases hlast hr' with ⟨-, hsame⟩ |
        ⟨now, page, plan, ended, hplanned, -, hafter, -⟩
      · exact hsame ▸ ih hlast
      · exact hafter ▸ (hplanned.leaves ended).initialized

/-- The page of a tick is the first one exactly if everything is as it was at the start. -/
theorem firstFetch_iff
    (h : Follows config (PollState.start config) records) (hr : records[k]? = some r)
    (hpage : r.Fetched) :
    FirstFetch records k ↔ r.before.watermark = none ∧ r.before.initialized = false := by
  constructor
  · intro hfirst
    rw [h.before_eq_start hr hfirst.2]
    exact ⟨rfl, rfl⟩
  · rintro ⟨-, hinit⟩
    refine ⟨⟨r, hr, hpage⟩, ?_⟩
    intro j r' hj hr' hpage'
    simp [h.initialized_before hj hr' hpage' hr] at hinit

/-- A page comes to nothing exactly if it is a first one whose threshold cannot be computed. -/
theorem handed_none_iff
    (h : Follows config (PollState.start config) records) (hr : records[k]? = some r)
    (hpage : r.CameWith page) :
    (∀ events, .handed events ∉ r.calls) ↔
      FirstFetch records k ∧ config.skipUpdates = false ∧
        ∃ first rest, page = first :: rest ∧ LacksPredecessor first.txnId := by
  obtain ⟨query, hpage⟩ := hpage
  have houtcome := h.outcome r (List.mem_of_getElem? hr)
  rw [houtcome.handed_none_iff hpage, plan?_eq_none_iff, h.firstFetch_iff hr ⟨query, page, hpage⟩,
    and_assoc]

/-- A first page that is not skipped is dispatched from its first identifier on. -/
theorem dispatched_perm_of_first
    {first : Transaction} {rest : List Transaction}
    (h : Follows config (PollState.start config) records) (hr : records[k]? = some r)
    (hpage : r.CameWith (first :: rest)) (hfirst : FirstFetch records k)
    (hskip : config.skipUpdates = false) (hpred : ¬ LacksPredecessor first.txnId) :
    r.dispatched.Perm ((first :: rest).filter fun t => first.txnId ≤ t.txnId) := by
  obtain ⟨query, hpage⟩ := hpage
  obtain ⟨hnone, hinit⟩ := (h.firstFetch_iff hr ⟨query, _, hpage⟩).mp hfirst
  have houtcome := h.outcome r (List.mem_of_getElem? hr)
  rcases houtcome.fetched_inv hpage with hplan | ⟨plan, ended, hplan, hcalls, -⟩
  · obtain ⟨-, -, -, _, _, heq, hlacks⟩ := plan?_eq_none_iff.mp hplan
    cases heq
    exact absurd hlacks hpred
  · have hdispatched : r.dispatched = plan.batch := by simp [TickRecord.dispatched, hcalls]
    rw [hdispatched]
    exact (planned_of_plan? hplan).batch_perm_of_first hnone hinit hskip hpred

/-- What is greater than all that was seen is dispatched, unless it is the least number of all. -/
theorem mem_dispatched_iff_of_greater
    (h : Follows config (PollState.start config) records) (hr : records[k]? = some r)
    (hpage : r.CameWith page) (hlater : ¬ FirstFetch records k) {t : Transaction} (ht : t ∈ page)
    (hgreater : ∀ x, SeenBefore records k x → x.txnId < t.txnId) :
    t ∈ r.dispatched ↔ Int64.minValue < t.txnId := by
  obtain ⟨query, hpage⟩ := hpage
  have houtcome := h.outcome r (List.mem_of_getElem? hr)
  have hnew : t.isAbove r.before.watermark = true := by
    cases hlow : r.before.watermark with
    | none => rfl
    | some low =>
        obtain ⟨x, hx, hle⟩ := h.withinSeen_before hr low hlow
        have hlt := hgreater x hx
        exact decide_eq_true (by grind)
  constructor
  · intro hdispatched
    obtain ⟨page', plan, hplanned, hbatch⟩ := houtcome.dispatched_inv hdispatched
    exact (hplanned.mem_batch_iff_onFailure.mp hbatch).2.2
  · intro hleast
    have hinit : r.before.initialized = true := by
      by_contra hinit
      refine hlater ⟨⟨r, hr, query, page, hpage⟩, ?_⟩
      intro j r' hj hr' hpage'
      exact hinit (h.initialized_before hj hr' hpage' hr)
    exact houtcome.dispatched_of_isNew hinit hpage ht ⟨hnew, hleast⟩

end Follows

variable {σ : Type}

/--
**The watermark stays within what was seen**, in any ticks one after another.

* Before and after every tick some payment on the pages that have come is as great as the watermark.
* A page comes to nothing exactly if it is the first one, is not skipped and begins with an
  identifier that lacks a predecessor. Otherwise its batch is handed over.
* Of a first page that is not skipped all is dispatched from the first identifier on.
* As soon as payments have been seen, a payment on a page is dispatched if it is greater than all of
  them.
* After empty pages only, it is dispatched unless its identifier is the least of all.
-/
theorem watermark_within_seen (p : Poller σ) (starts : List (Nat × σ)) :
    let records := p.ticks (PollState.start p.config) starts
    (∀ k r, records[k]? = some r →
      (∀ high, r.before.watermark = some high → ∃ t, SeenBefore records k t ∧ high ≤ t.txnId) ∧
      (∀ high, r.after.watermark = some high →
        ∃ t, SeenBefore records (k + 1) t ∧ high ≤ t.txnId)) ∧
    (∀ k r page, records[k]? = some r → r.CameWith page →
      ((∀ events, .handed events ∉ r.calls) ↔
        FirstFetch records k ∧ p.config.skipUpdates = false ∧
          ∃ first rest, page = first :: rest ∧ LacksPredecessor first.txnId)) ∧
    (∀ k r first rest, records[k]? = some r → r.CameWith (first :: rest) →
      FirstFetch records k → p.config.skipUpdates = false → ¬ LacksPredecessor first.txnId →
        r.dispatched.Perm ((first :: rest).filter fun t => first.txnId ≤ t.txnId)) ∧
    (∀ k r page, records[k]? = some r → r.CameWith page → (∃ x, SeenBefore records k x) →
      ∀ t ∈ page, (∀ x, SeenBefore records k x → x.txnId < t.txnId) → t ∈ r.dispatched) ∧
    (∀ k r page, records[k]? = some r → r.CameWith page → ¬ FirstFetch records k →
      (¬ ∃ x, SeenBefore records k x) →
        ∀ t ∈ page, (t ∈ r.dispatched ↔ Int64.minValue < t.txnId)) := by
  intro records
  have hfollows : Follows p.config (PollState.start p.config) records := follows_ticks p _ starts
  refine ⟨?_, ?_, ?_, ?_, ?_⟩
  · intro k r hr
    have hbefore := hfollows.withinSeen_before hr
    exact ⟨hbefore, hfollows.withinSeen_after hr hbefore⟩
  · intro k r page hr hpage
    exact hfollows.handed_none_iff hr hpage
  · intro k r first rest hr hpage hfirst hskip hpred
    exact hfollows.dispatched_perm_of_first hr hpage hfirst hskip hpred
  · rintro k r page hr hpage ⟨x, hx⟩ t ht hgreater
    have hlater : ¬ FirstFetch records k := by
      obtain ⟨j, r', page', hj, hr', ⟨query, hpage'⟩, -⟩ := hx
      exact fun hfirst => hfirst.2 j r' hj hr' ⟨query, page', hpage'⟩
    have hlt := hgreater x hx
    have hleast := Int64.minValue_le x.txnId
    exact (hfollows.mem_dispatched_iff_of_greater hr hpage hlater ht hgreater).mpr (by grind)
  · intro k r page hr hpage hlater hnone t ht
    exact hfollows.mem_dispatched_iff_of_greater hr hpage hlater ht
      fun x hx => absurd ⟨x, hx⟩ hnone

/-- A tick whose page has no plan is the last one. -/
theorem ticks_cons_broken
    {p : Poller σ} {s : PollState} {t t' : Nat} {w w' : σ} {page : List Transaction}
    (hhistory : (p.service.history (query p.config (p.clock t) s)).run t w =
      (some (.ok page), t', w'))
    (hplan : plan? p.config s page = none) (starts : List (Nat × σ)) :
    p.ticks s ((t, w) :: starts) =
      [⟨s, [.fetched (query p.config (p.clock t) s) (.ok page)], none⟩] := by
  have hnow : p.now.run t w = (some (p.clock t), t, w) := rfl
  have hnow' : (Watched.within p.now).run t ⟨[], w⟩ = (some (p.clock t), t, ⟨[], w⟩) := rfl
  have hnoted := Watched.run_noting_some (w := ⟨[], w⟩)
    (.fetched (query p.config (p.clock t) s)) hhistory
  rw [ticks, watchedTick, run_tickWith_broken hnow' hnoted hplan, tick,
    run_tickWith_broken hnow hhistory hplan]
  rfl

/-- The small payment with the least identifier of all. -/
def leastPayment : Transaction := { retryPayment with txnId := Int64.minValue }

/-- A tick that finds the least payment, and others that would find a greater one. -/
def leastTicks (further : Nat) : List TickRecord :=
  narrowPoller.ticks (PollState.start narrowPoller.config)
    ((0, [leastPayment]) :: List.replicate further (0, [leastPayment, laterPayment]))

/-- The threshold of the least payment would be the greatest number of all. The tick that finds this
payment breaks off, and no later payment is dispatched by any number of further ticks. -/
theorem least_payment_breaks_off :
    (leastPayment.txnId - 1).toInt ≠ leastPayment.txnId.toInt - 1 ∧
    leastPayment.txnId < laterPayment.txnId ∧
    ∀ further,
      leastTicks further =
        [⟨PollState.start narrowPoller.config,
          [.fetched (query narrowPoller.config ⟨0, 0⟩ (PollState.start narrowPoller.config))
            (.ok [leastPayment])], none⟩] ∧
      ¬ ∃ r ∈ leastTicks further, laterPayment ∈ r.dispatched := by
  refine ⟨by decide, by decide, fun further => ?_⟩
  have hticks : leastTicks further =
      [⟨PollState.start narrowPoller.config,
        [.fetched (query narrowPoller.config ⟨0, 0⟩ (PollState.start narrowPoller.config))
          (.ok [leastPayment])], none⟩] :=
    ticks_cons_broken rfl rfl _
  refine ⟨hticks, ?_⟩
  rw [hticks]
  rintro ⟨r, hr, hmem⟩
  obtain rfl := List.mem_singleton.mp hr
  cases hmem

end Poller

end WalletEvents
