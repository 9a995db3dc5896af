import WalletEvents.Polling.Poller

/-!
# Plans for a page

`Poller.plan?` has five exits, and the constructors of `Poller.Planned` are
these exits:

* an empty page;
* a page when there is a watermark;
* a page without a watermark after an empty first page;
* a first page that is skipped;
* a first page from which the watermark is taken.

Every law of plans is a case distinction over them. The laws of this module
compare the watermark before a tick with the watermark after it, and both with
the identifiers of the batch.
-/

namespace WalletEvents

theorem le_max_id_left (a b : Int64) : a ≤ max a b := by
  show a ≤ if a ≤ b then b else a
  split <;> grind

theorem le_max_id_right (a b : Int64) : b ≤ max a b := by
  show b ≤ if a ≤ b then b else a
  split <;> grind

theorem max_id_cases (a b : Int64) : max a b = a ∨ max a b = b := by
  show (if a ≤ b then b else a) = a ∨ (if a ≤ b then b else a) = b
  by_cases h : a ≤ b <;> simp [h]

/-- A watermark that is set stays set and does not sink. -/
def Advances (before after : Option Int64) : Prop :=
  ∀ low, before = some low → ∃ high, after = some high ∧ low ≤ high

namespace Advances

theorem refl (watermark : Option Int64) : Advances watermark watermark :=
  fun low h => ⟨low, h, by grind⟩

theorem of_none (watermark : Option Int64) : Advances none watermark := by
  rintro low ⟨⟩

theorem of_le {low high : Int64} (h : low ≤ high) : Advances (some low) (some high) := by
  rintro _ ⟨⟩
  exact ⟨high, rfl, h⟩

theorem trans {a b c : Option Int64} (hab : Advances a b) (hbc : Advances b c) :
    Advances a c := by
  intro low h
  obtain ⟨mid, hb, hlow⟩ := hab low h
  obtain ⟨high, hc, hmid⟩ := hbc mid hb
  exact ⟨high, hc, by grind⟩

end Advances

namespace Transaction

/-- Whether a payment lies above a watermark; all do as long as there is none. -/
def isAbove (watermark : Option Int64) (t : Transaction) : Bool :=
  match watermark with
  | none => true
  | some low => decide (low < t.txnId)

theorem isAbove_of_advances
    {before after : Option Int64} (h : Advances before after) {t : Transaction}
    (ht : t.isAbove after = true) :
    t.isAbove before = true := by
  cases before with
  | none => rfl
  | some low =>
      obtain ⟨high, rfl, hle⟩ := h low rfl
      simp only [isAbove, decide_eq_true_eq] at ht ⊢
      grind

theorem isAbove_of_lt
    {watermark : Option Int64} {t x : Transaction} (ht : t.isAbove watermark = true)
    (hlt : t.txnId < x.txnId) :
    x.isAbove watermark = true := by
  cases watermark with
  | none => rfl
  | some low =>
      simp only [isAbove, decide_eq_true_eq] at ht ⊢
      grind

end Transaction

namespace Poller

/-- The greatest identifier bounds those of the page. -/
theorem le_greatestId (first : Int64) (rest : List Transaction) :
    first ≤ greatestId first rest ∧ ∀ t ∈ rest, t.txnId ≤ greatestId first rest := by
  induction rest generalizing first with
  | nil =>
      constructor
      · simp [greatestId]
      · simp
  | cons head tail ih =>
      obtain ⟨hfirst, htail⟩ := ih (max first head.txnId)
      have hleft := le_max_id_left first head.txnId
      have hright := le_max_id_right first head.txnId
      have hcons : greatestId first (head :: tail) =
          greatestId (max first head.txnId) tail := rfl
      rw [hcons]
      constructor
      · grind
      · intro t ht
        rcases List.mem_cons.mp ht with rfl | ht
        · grind
        · exact htail t ht

theorem mem_page_le_greatestId
    (first : Transaction) (rest : List Transaction) {t : Transaction} (ht : t ∈ first :: rest) :
    t.txnId ≤ greatestId first.txnId rest := by
  obtain ⟨hfirst, hrest⟩ := le_greatestId first.txnId rest
  rcases List.mem_cons.mp ht with rfl | ht
  · exact hfirst
  · exact hrest t ht

theorem fresh_perm (threshold : Int64) (page : List Transaction) :
    (fresh threshold page).Perm (page.filter fun t => threshold < t.txnId) :=
  List.mergeSort_perm _ _

theorem mem_fresh {threshold : Int64} {page : List Transaction} {t : Transaction} :
    t ∈ fresh threshold page ↔ t ∈ page ∧ threshold < t.txnId := by
  rw [(fresh_perm threshold page).mem_iff]
  simp

/-- The batch is in the order of its identifiers. -/
theorem pairwise_fresh (threshold : Int64) (page : List Transaction) :
    (fresh threshold page).Pairwise fun a b => a.txnId ≤ b.txnId := by
  have htrans : ∀ a b c : Transaction,
      decide (a.txnId ≤ b.txnId) = true → decide (b.txnId ≤ c.txnId) = true →
        decide (a.txnId ≤ c.txnId) = true := by
    intro a b c
    simp only [decide_eq_true_eq]
    grind
  have htotal : ∀ a b : Transaction,
      (decide (a.txnId ≤ b.txnId) || decide (b.txnId ≤ a.txnId)) = true := by
    intro a b
    simp only [Bool.or_eq_true, decide_eq_true_eq]
    grind
  exact (List.pairwise_mergeSort htrans htotal _).imp fun h => of_decide_eq_true h

theorem exists_greatestId (first : Transaction) (rest : List Transaction) :
    ∃ t ∈ first :: rest, greatestId first.txnId rest = t.txnId := by
  have hgreatest : ∀ least : Int64, greatestId least rest = least ∨
      ∃ t ∈ rest, greatestId least rest = t.txnId := by
    induction rest with
    | nil => exact fun least => .inl rfl
    | cons head tail ih =>
        intro least
        have hcons : greatestId least (head :: tail) =
            greatestId (max least head.txnId) tail := rfl
        rw [hcons]
        rcases ih (max least head.txnId) with hmax | ⟨t, ht, heq⟩
        · rcases max_id_cases least head.txnId with hleast | hhead
          · exact .inl (hmax.trans hleast)
          · exact .inr ⟨head, List.mem_cons_self, hmax.trans hhead⟩
        · exact .inr ⟨t, List.mem_cons_of_mem _ ht, heq⟩
  rcases hgreatest first.txnId with heq | ⟨t, ht, heq⟩
  · exact ⟨first, List.mem_cons_self, heq⟩
  · exact ⟨t, List.mem_cons_of_mem _ ht, heq⟩

/-- Whether a page is full. -/
def isFull (config : PollingConfig) (page : List Transaction) : Bool :=
  decide (config.pageRows ≤ page.length)

/-- What is remembered of a page before its batch is looked at. -/
def seenPage
    (config : PollingConfig) (s : PollState) (first : Transaction) (rest : List Transaction) :
    PollState where
  watermark := s.watermark
  initialized := true
  updatesFrom :=
    if isFull config (first :: rest) then some (oldestDate first.date.instant rest)
    else s.updatesFrom

/-- The plan that takes the payments above a threshold for new. -/
def planFrom
    (config : PollingConfig) (threshold : Int64) (first : Transaction)
    (rest : List Transaction) (seen : PollState) : TickPlan :=
  planAbove threshold (greatestId first.txnId rest) (first :: rest) seen
    (isFull config (first :: rest))

@[simp] theorem planFrom_batch
    (config : PollingConfig) (threshold : Int64) (first : Transaction)
    (rest : List Transaction) (seen : PollState) :
    (planFrom config threshold first rest seen).batch = fresh threshold (first :: rest) := rfl

@[simp] theorem planFrom_onFailure
    (config : PollingConfig) (threshold : Int64) (first : Transaction)
    (rest : List Transaction) (seen : PollState) :
    (planFrom config threshold first rest seen).onFailure = seen := rfl

@[simp] theorem planFrom_onSuccess
    (config : PollingConfig) (threshold : Int64) (first : Transaction)
    (rest : List Transaction) (seen : PollState) :
    (planFrom config threshold first rest seen).onSuccess =
      { seen with watermark := some (max threshold (greatestId first.txnId rest)) } := rfl

/-- The plan that only sets the watermark. -/
def planSkipping (config : PollingConfig) (s : PollState) (first : Transaction)
    (rest : List Transaction) : TickPlan :=
  let skipping :=
    { seenPage config s first rest with watermark := some (greatestId first.txnId rest) }
  ⟨skipping, [], skipping,
    ⟨(first :: rest).length, 0, (first :: rest).length, isFull config (first :: rest)⟩⟩

/-- The plans that there can be for a page, by what the poller remembers. -/
inductive Planned (config : PollingConfig) (s : PollState) : List Transaction → TickPlan → Prop
  | empty :
      Planned config s []
        ⟨{ s with initialized := true }, [], { s with initialized := true }, ⟨0, 0, 0, false⟩⟩
  | known {low : Int64} (first : Transaction) (rest : List Transaction)
      (hlow : s.watermark = some low) :
      Planned config s (first :: rest)
        (planFrom config low first rest (seenPage config s first rest))
  | unset (first : Transaction) (rest : List Transaction)
      (hnone : s.watermark = none) (hinit : s.initialized = true) :
      Planned config s (first :: rest)
        (planFrom config Int64.minValue first rest (seenPage config s first rest))
  | skipped (first : Transaction) (rest : List Transaction)
      (hnone : s.watermark = none) (hinit : s.initialized = false)
      (hskip : config.skipUpdates = true) :
      Planned config s (first :: rest) (planSkipping config s first rest)
  | seeded (first : Transaction) (rest : List Transaction)
      (hnone : s.watermark = none) (hinit : s.initialized = false)
      (hskip : config.skipUpdates = false) (hleast : first.txnId ≠ Int64.minValue) :
      Planned config s (first :: rest)
        (planFrom config (first.txnId - 1) first rest
          { seenPage config s first rest with watermark := some (first.txnId - 1) })

theorem planned_of_plan?
    {config : PollingConfig} {s : PollState} {page : List Transaction} {plan : TickPlan}
    (h : plan? config s page = some plan) :
    Planned config s page plan := by
  cases page with
  | nil =>
      cases h
      exact .empty
  | cons first rest =>
      simp only [plan?] at h
      split at h
      next low hlow =>
        cases h
        exact .known first rest hlow
      next hnone =>
        split at h
        next hinit =>
          cases h
          exact .unset first rest hnone hinit
        next hinit =>
          have hinit' : s.initialized = false := by simpa using hinit
          split at h
          next hskip =>
            cases h
            exact .skipped first rest hnone hinit' hskip
          next hskip =>
            split at h
            next => cases h
            next hleast =>
              cases h
              exact .seeded first rest hnone hinit' (by simpa using hskip) hleast

namespace Planned

variable {config : PollingConfig} {s : PollState} {page : List Transaction} {plan : TickPlan}

/-- A tick whose batch fails does not lower the watermark. -/
theorem onFailure_advances (h : Planned config s page plan) :
    Advances s.watermark plan.onFailure.watermark := by
  cases h with
  | empty => exact Advances.refl _
  | known first rest hlow => exact Advances.refl _
  | unset first rest hnone hinit => exact Advances.refl _
  | skipped first rest hnone hinit hskip =>
      rw [hnone]
      exact Advances.of_none _
  | seeded first rest hnone hinit hskip hleast =>
      rw [hnone]
      exact Advances.of_none _

/-- Neither does its batch when it is done. -/
theorem onSuccess_advances (h : Planned config s page plan) :
    Advances plan.onFailure.watermark plan.onSuccess.watermark := by
  cases h with
  | empty => exact Advances.refl _
  | known first rest hlow =>
      rw [planFrom_onFailure, seenPage, hlow, planFrom_onSuccess]
      exact Advances.of_le (le_max_id_left _ _)
  | unset first rest hnone hinit =>
      rw [planFrom_onFailure, seenPage, hnone]
      exact Advances.of_none _
  | skipped first rest hnone hinit hskip => exact Advances.refl _
  | seeded first rest hnone hinit hskip hleast =>
      rw [planFrom_onFailure, planFrom_onSuccess]
      exact Advances.of_le (le_max_id_left _ _)

theorem pairwise_batch (h : Planned config s page plan) :
    plan.batch.Pairwise fun a b => a.txnId ≤ b.txnId := by
  cases h with
  | empty => exact .nil
  | known first rest hlow => exact pairwise_fresh _ _
  | unset first rest hnone hinit => exact pairwise_fresh _ _
  | skipped first rest hnone hinit hskip => exact .nil
  | seeded first rest hnone hinit hskip hleast => exact pairwise_fresh _ _

/-- When there is a watermark, the batch is what the page holds above it. -/
theorem batch_perm (h : Planned config s page plan) {low : Int64} (hlow : s.watermark = some low) :
    plan.batch.Perm (page.filter fun t => low < t.txnId) := by
  cases h with
  | empty => exact .nil
  | known first rest hlow' =>
      obtain rfl : low = _ := Option.some.inj (hlow.symm.trans hlow')
      exact fresh_perm _ _
  | unset first rest hnone hinit => simp [hnone] at hlow
  | skipped first rest hnone hinit hskip => simp [hnone] at hlow
  | seeded first rest hnone hinit hskip hleast => simp [hnone] at hlow

theorem lt_of_mem_batch
    (h : Planned config s page plan) {low : Int64} (hlow : s.watermark = some low)
    {t : Transaction} (ht : t ∈ plan.batch) :
    low < t.txnId := by
  have hmem := (h.batch_perm hlow).mem_iff.mp ht
  exact of_decide_eq_true (List.mem_filter.mp hmem).2

/-- A page moves the start of the window to its oldest date or leaves it where it was. -/
theorem updatesFrom_cases (h : Planned config s page plan) :
    plan.onFailure.updatesFrom = s.updatesFrom ∨
      ∃ first rest, page = first :: rest ∧
        plan.onFailure.updatesFrom = some (oldestDate first.date.instant rest) := by
  have hseen : ∀ (first : Transaction) (rest : List Transaction),
      (seenPage config s first rest).updatesFrom = s.updatesFrom ∨
        (seenPage config s first rest).updatesFrom =
          some (oldestDate first.date.instant rest) := by
    intro first rest
    by_cases hfull : isFull config (first :: rest) = true
    · exact .inr (if_pos hfull)
    · exact .inl (if_neg hfull)
  cases h with
  | empty => exact .inl rfl
  | known first rest hlow => exact (hseen first rest).imp_right fun h => ⟨first, rest, rfl, h⟩
  | unset first rest hnone hinit =>
      exact (hseen first rest).imp_right fun h => ⟨first, rest, rfl, h⟩
  | skipped first rest hnone hinit hskip =>
      exact (hseen first rest).imp_right fun h => ⟨first, rest, rfl, h⟩
  | seeded first rest hnone hinit hskip hleast =>
      exact (hseen first rest).imp_right fun h => ⟨first, rest, rfl, h⟩

/-- Once a page has come, a failure of the batch leaves the watermark where it was. -/
theorem onFailure_watermark (h : Planned config s page plan) (hinit : s.initialized = true) :
    plan.onFailure.watermark = s.watermark := by
  cases h with
  | empty => rfl
  | known first rest hlow => rfl
  | unset first rest hnone hinit' => rfl
  | skipped first rest hnone hinit' hskip => simp [hinit] at hinit'
  | seeded first rest hnone hinit' hskip hleast => simp [hinit] at hinit'

/-- Once a page has come, all that lies above the watermark is new. -/
theorem mem_batch (h : Planned config s page plan) (hinit : s.initialized = true)
    {t : Transaction} (ht : t ∈ page) (habove : t.isAbove s.watermark = true)
    (hleast : Int64.minValue < t.txnId) :
    t ∈ plan.batch := by
  cases h with
  | empty => exact absurd ht (by simp)
  | known first rest hlow =>
      rw [hlow] at habove
      exact mem_fresh.mpr ⟨ht, of_decide_eq_true habove⟩
  | unset first rest hnone hinit' => exact mem_fresh.mpr ⟨ht, hleast⟩
  | skipped first rest hnone hinit' hskip => simp [hinit] at hinit'
  | seeded first rest hnone hinit' hskip hleast => simp [hinit] at hinit'

theorem mem_page (h : Planned config s page plan) {t : Transaction} (ht : t ∈ plan.batch) :
    t ∈ page := by
  cases h with
  | empty => cases ht
  | known first rest hlow => exact (mem_fresh.mp ht).1
  | unset first rest hnone hinit => exact (mem_fresh.mp ht).1
  | skipped first rest hnone hinit hskip => cases ht
  | seeded first rest hnone hinit hskip hleast => exact (mem_fresh.mp ht).1

/-- Once a page has come, the batch is what the page holds above the watermark, unless that has the
least identifier of all. -/
theorem mem_batch_iff (h : Planned config s page plan) (hinit : s.initialized = true)
    {t : Transaction} :
    t ∈ plan.batch ↔
      t ∈ page ∧ t.isAbove s.watermark = true ∧ Int64.minValue < t.txnId := by
  constructor
  · intro ht
    refine ⟨h.mem_page ht, ?_⟩
    cases hwatermark : s.watermark with
    | some low =>
        have hlt := h.lt_of_mem_batch hwatermark ht
        have hleast := Int64.minValue_le low
        exact ⟨decide_eq_true hlt, by grind⟩
    | none =>
        refine ⟨rfl, ?_⟩
        cases h with
        | empty => cases ht
        | known first rest hlow => simp [hwatermark] at hlow
        | unset first rest hnone hinit' => exact (mem_fresh.mp ht).2
        | skipped first rest hnone hinit' hskip => simp [hinit] at hinit'
        | seeded first rest hnone hinit' hskip hleast => simp [hinit] at hinit'
  · rintro ⟨hpage, habove, hleast⟩
    exact h.mem_batch hinit hpage habove hleast

/-- When the batch is done, nothing on the page lies above the watermark. -/
theorem exists_le_of_mem_page (h : Planned config s page plan) {t : Transaction} (ht : t ∈ page) :
    ∃ high, plan.onSuccess.watermark = some high ∧ t.txnId ≤ high := by
  have hmax : ∀ {threshold : Int64} {first : Transaction} {rest : List Transaction},
      t ∈ first :: rest → t.txnId ≤ max threshold (greatestId first.txnId rest) := by
    intro threshold first rest ht
    have hpage := mem_page_le_greatestId first rest ht
    have hgreatest := le_max_id_right threshold (greatestId first.txnId rest)
    grind
  cases h with
  | empty => cases ht
  | known first rest hlow => exact ⟨_, rfl, hmax ht⟩
  | unset first rest hnone hinit => exact ⟨_, rfl, hmax ht⟩
  | skipped first rest hnone hinit hskip => exact ⟨_, rfl, mem_page_le_greatestId first rest ht⟩
  | seeded first rest hnone hinit hskip hleast => exact ⟨_, rfl, hmax ht⟩

/-- A watermark that a page sets is no greater than the identifier of a payment on it. -/
theorem watermark_le (h : Planned config s page plan) {high : Int64}
    (hhigh : plan.onFailure.watermark = some high ∨ plan.onSuccess.watermark = some high) :
    s.watermark = some high ∨ ∃ t ∈ page, high ≤ t.txnId := by
  have hmax : ∀ {low : Int64} (first : Transaction) (rest : List Transaction),
      max low (greatestId first.txnId rest) = high →
        low = high ∨ ∃ t ∈ first :: rest, high ≤ t.txnId := by
    intro low first rest heq
    rcases max_id_cases low (greatestId first.txnId rest) with hlow | hgreatest
    · exact .inl (hlow.symm.trans heq)
    · obtain ⟨t, ht, hid⟩ := exists_greatestId first rest
      exact .inr ⟨t, ht, by grind⟩
  cases h with
  | empty => simpa using hhigh
  | known first rest hlow =>
      rcases hhigh with hhigh | hhigh
      · exact .inl hhigh
      · rcases hmax first rest (Option.some.inj hhigh) with rfl | hpage
        · exact .inl hlow
        · exact .inr hpage
  | unset first rest hnone hinit =>
      rcases hhigh with hhigh | hhigh
      · exact .inl hhigh
      · rcases hmax first rest (Option.some.inj hhigh) with rfl | hpage
        · exact .inr ⟨first, List.mem_cons_self, by grind⟩
        · exact .inr hpage
  | skipped first rest hnone hinit hskip =>
      obtain ⟨t, ht, hid⟩ := exists_greatestId first rest
      have heq : greatestId first.txnId rest = high := by simpa [planSkipping] using hhigh
      exact .inr ⟨t, ht, by grind⟩
  | seeded first rest hnone hinit hskip hleast =>
      have hseed : first.txnId - 1 ≤ first.txnId := by grind
      rcases hhigh with hhigh | hhigh
      · obtain rfl := Option.some.inj hhigh
        exact .inr ⟨first, List.mem_cons_self, hseed⟩
      · rcases hmax first rest (Option.some.inj hhigh) with rfl | hpage
        · exact .inr ⟨first, List.mem_cons_self, hseed⟩
        · exact .inr hpage

/-- Nothing older than the first payment of the first page lies above the watermark. -/
theorem le_of_isAbove (h : Planned config s page plan)
    (hnone : s.watermark = none) (hinit : s.initialized = false)
    {first : Transaction} {rest : List Transaction} (hpage : page = first :: rest)
    {t : Transaction} (habove : t.isAbove plan.onFailure.watermark = true) :
    first.txnId ≤ t.txnId := by
  cases h with
  | empty => cases hpage
  | known first rest hlow => simp [hnone] at hlow
  | unset first rest hnone hinit' => simp [hinit] at hinit'
  | skipped first rest hnone hinit' hskip =>
      cases hpage
      have hfirst := (le_greatestId first.txnId rest).1
      have hlt : greatestId first.txnId rest < t.txnId := of_decide_eq_true habove
      grind
  | seeded first rest hnone hinit' hskip hleast =>
      cases hpage
      have hlt : first.txnId - 1 < t.txnId := of_decide_eq_true habove
      grind

end Planned

/-- What both ends of a batch have in common. -/
structure Leaves (s : PollState) (page : List Transaction) (plan : TickPlan) (s' : PollState) :
    Prop where
  initialized : s'.initialized = true
  updatesFrom : s'.updatesFrom = plan.onFailure.updatesFrom
  advances : Advances plan.onFailure.watermark s'.watermark
  watermark_le : ∀ high, s'.watermark = some high →
    s.watermark = some high ∨ ∃ t ∈ page, high ≤ t.txnId

theorem Planned.leaves
    {config : PollingConfig} {s : PollState} {page : List Transaction} {plan : TickPlan}
    (h : Planned config s page plan) (ended : Except DispatchError Unit) :
    Leaves s page plan (settle plan ended).2 := by
  cases ended with
  | error e =>
      constructor
      · cases h <;> rfl
      · rfl
      · exact Advances.refl _
      · exact fun high hhigh => h.watermark_le (.inl hhigh)
  | ok done =>
      constructor
      · cases h <;> rfl
      · cases h <;> rfl
      · exact h.onSuccess_advances
      · exact fun high hhigh => h.watermark_le (.inr hhigh)

end Poller

end WalletEvents
