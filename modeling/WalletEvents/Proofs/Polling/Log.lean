import Mathlib.Tactic.ByContra
import WalletEvents.Proofs.Polling.Plan

/-!
# Histories that are logs

A service may keep its history as a log, to which payments are only added at the
end. Their identifiers ascend and their dates do not go back. Such a service
answers with the newest payments in the window that it was asked for.

A payment of the window is on the page exactly when there is room behind all
newer ones, as `Poller.mem_newest_iff` says. So a page holds all payments of its
window above a watermark, as long as there is room on it for all payments above
the watermark; this is `Poller.mem_newest`, on which a poller can rely.
-/

namespace WalletEvents

namespace Instant

theorem lt_self (a : Instant) : a.lt a = false := by
  simp [lt]

/-- What is not earlier than a second instant is not earlier than what the second is not
earlier than. -/
theorem not_lt_trans {a b c : Instant} (hab : a.lt b = false) (hbc : b.lt c = false) :
    a.lt c = false := by
  simp only [lt, Bool.or_eq_false_iff, Bool.and_eq_false_iff, decide_eq_false_iff_not] at *
  omega

theorem not_lt_of_lt {a b : Instant} (h : a.lt b = true) : b.lt a = false := by
  simp only [lt, Bool.or_eq_false_iff, Bool.and_eq_false_iff, decide_eq_false_iff_not,
    Bool.or_eq_true, Bool.and_eq_true, decide_eq_true_eq] at *
  omega

end Instant

namespace Transaction

/-- Whether a payment is dated at or after the start of a window, if that has one. -/
def isSince (start : Option Instant) (t : Transaction) : Bool :=
  match start with
  | none => true
  | some start => !t.date.instant.lt start

end Transaction

namespace Poller

theorem not_earlier (a b : Instant) :
    a.lt (earlier a b) = false ∧ b.lt (earlier a b) = false := by
  unfold earlier
  by_cases h : b.lt a = true
  · rw [if_pos h]
    exact ⟨Instant.not_lt_of_lt h, Instant.lt_self b⟩
  · rw [if_neg h]
    exact ⟨Instant.lt_self a, by simpa using h⟩

/-- Nothing on a page is dated before its oldest date. -/
theorem oldestDate_spec (first : Instant) (rest : List Transaction) :
    first.lt (oldestDate first rest) = false ∧
      ∀ t ∈ rest, t.date.instant.lt (oldestDate first rest) = false := by
  induction rest generalizing first with
  | nil =>
      constructor
      · exact Instant.lt_self first
      · simp
  | cons head tail ih =>
      obtain ⟨hfirst, htail⟩ := ih (earlier first head.date.instant)
      obtain ⟨hleft, hright⟩ := not_earlier first head.date.instant
      have hcons : oldestDate first (head :: tail) =
          oldestDate (earlier first head.date.instant) tail := rfl
      rw [hcons]
      constructor
      · exact Instant.not_lt_trans hleft hfirst
      · intro t ht
        rcases List.mem_cons.mp ht with rfl | ht
        · exact Instant.not_lt_trans hright hfirst
        · exact htail t ht

theorem not_lt_oldestDate
    (first : Transaction) (rest : List Transaction) {t : Transaction} (ht : t ∈ first :: rest) :
    t.date.instant.lt (oldestDate first.date.instant rest) = false := by
  obtain ⟨hfirst, hrest⟩ := oldestDate_spec first.date.instant rest
  rcases List.mem_cons.mp ht with rfl | ht
  · exact hfirst
  · exact hrest t ht

/-- The identifiers of a log ascend, and its dates do not go back. -/
def IsLog (log : List Transaction) : Prop :=
  log.Pairwise fun a b => a.txnId < b.txnId ∧ b.date.instant.lt a.date.instant = false

/-- The newest payments of a log in the window that is asked for, newest first. -/
def newest (log : List Transaction) (query : HistoryQuery) : List Transaction :=
  (log.filter fun t => t.isSince query.startDate).reverse.take query.rows

namespace IsLog

variable {log : List Transaction}

/-- The dates of a log are in the order of its identifiers. -/
theorem not_lt_of_le (h : IsLog log) {a b : Transaction}
    (ha : a ∈ log) (hb : b ∈ log) (hle : b.txnId ≤ a.txnId) :
    a.date.instant.lt b.date.instant = false := by
  let InOrder := fun a b : Transaction =>
    b.txnId ≤ a.txnId → a.date.instant.lt b.date.instant = false
  have hself : ∀ t ∈ log, InOrder t t := fun t ht hle => Instant.lt_self _
  have hforth : log.Pairwise InOrder := h.imp fun hab hle => by grind
  have hback : log.Pairwise (flip InOrder) := h.imp fun hab hle => hab.2
  exact hforth.forall_of_forall_of_flip hself hback ha hb hle

end IsLog

theorem newest_sublist (log : List Transaction) (query : HistoryQuery) :
    (newest log query).Sublist log.reverse := by
  refine (List.take_sublist _ _).trans ?_
  rw [List.reverse_sublist]
  exact List.filter_sublist

theorem mem_of_mem_newest
    {log : List Transaction} {query : HistoryQuery} {t : Transaction}
    (h : t ∈ newest log query) :
    t ∈ log :=
  List.mem_reverse.mp ((newest_sublist log query).subset h)

/-- What is asked for of a log, newest first, is in descending order. -/
theorem IsLog.pairwise_window {log : List Transaction} (h : IsLog log) (start : Option Instant) :
    (log.filter fun t => t.isSince start).reverse.Pairwise fun a b => b.txnId < a.txnId := by
  rw [List.pairwise_reverse]
  exact (h.filter _).imp fun hab => hab.1

/-- What is newer than a payment of a window is in the window too. -/
theorem IsLog.isSince_of_lt
    {log : List Transaction} (h : IsLog log) {start : Option Instant} {t x : Transaction}
    (ht : t ∈ log) (hx : x ∈ log) (hlt : t.txnId < x.txnId) (hsince : t.isSince start = true) :
    x.isSince start = true := by
  have hdate := h.not_lt_of_le hx ht (by grind)
  cases start with
  | none => rfl
  | some start =>
      simp only [Transaction.isSince, Bool.not_eq_true'] at hsince ⊢
      exact Instant.not_lt_trans hdate hsince

/-- Nothing in the window is newer than the first payment of a page. -/
theorem exists_newest
    {log : List Transaction} (hlog : IsLog log) (query : HistoryQuery) (hrows : 0 < query.rows)
    {t : Transaction} (ht : t ∈ log) (hsince : t.isSince query.startDate = true) :
    ∃ first rest, newest log query = first :: rest ∧ t.txnId ≤ first.txnId := by
  have hdescending := hlog.pairwise_window query.startDate
  have hmem : t ∈ (log.filter fun t => t.isSince query.startDate).reverse := by
    simp [ht, hsince]
  obtain ⟨rows, hrows⟩ : ∃ rows, query.rows = rows + 1 := ⟨query.rows - 1, by omega⟩
  unfold newest
  rw [hrows]
  generalize (log.filter fun t => t.isSince query.startDate).reverse = window at *
  cases window with
  | nil => cases hmem
  | cons first rest =>
      refine ⟨first, rest.take rows, rfl, ?_⟩
      rcases List.mem_cons.mp hmem with rfl | hmem
      · grind
      · have hlt := (List.pairwise_cons.mp hdescending).1 t hmem
        grind

/-- In a descending list an entry is among the first ones when fewer entries are greater. -/
theorem mem_take_iff_of_descending
    {entries : List Transaction} (h : entries.Pairwise fun a b => b.txnId < a.txnId)
    {t : Transaction} (ht : t ∈ entries) (rows : Nat) :
    t ∈ entries.take rows ↔ (entries.filter fun x => t.txnId < x.txnId).length < rows := by
  induction entries generalizing rows with
  | nil => cases ht
  | cons head tail ih =>
      obtain ⟨hhead, htail⟩ := List.pairwise_cons.mp h
      cases rows with
      | zero => simp
      | succ rows =>
          rcases List.mem_cons.mp ht with rfl | ht
          · have hnone : tail.filter (fun x => t.txnId < x.txnId) = [] := by
              rw [List.filter_eq_nil_iff]
              intro x hx
              have hlt := hhead x hx
              simp only [decide_eq_true_eq]
              grind
            simp [hnone]
          · have hlt := hhead t ht
            have hne : t ≠ head := by
              rintro rfl
              grind
            simp [hlt, hne, ih htail ht]

/-- **A payment of the window is on the page** exactly when fewer payments are newer than the page
has rows. -/
theorem mem_newest_iff
    {log : List Transaction} (hlog : IsLog log) {query : HistoryQuery} {t : Transaction}
    (ht : t ∈ log) (hsince : t.isSince query.startDate = true) :
    t ∈ newest log query ↔
      (log.filter fun x => t.txnId < x.txnId).length < query.rows := by
  have hnewer : (log.filter fun t => t.isSince query.startDate).filter
      (fun x => t.txnId < x.txnId) = log.filter fun x => t.txnId < x.txnId := by
    rw [List.filter_filter]
    apply List.filter_congr
    intro x hx
    by_cases hlt : t.txnId < x.txnId
    · simp [hlog.isSince_of_lt ht hx hlt hsince]
    · simp [hlt]
  rw [newest, mem_take_iff_of_descending (hlog.pairwise_window _) (by simp [ht, hsince]),
    List.filter_reverse, List.length_reverse, hnewer]

/-- **A page holds all payments** of its window above a watermark when there is room for them. -/
theorem mem_newest
    {log : List Transaction} (hlog : IsLog log) {query : HistoryQuery} {watermark : Option Int64}
    (hroom : (log.filter fun t => t.isAbove watermark).length ≤ query.rows)
    {t : Transaction} (ht : t ∈ log) (habove : t.isAbove watermark = true)
    (hsince : t.isSince query.startDate = true) :
    t ∈ newest log query := by
  have hnewer : (log.filter fun x => x.isAbove watermark).filter (fun x => t.txnId < x.txnId) =
      log.filter fun x => t.txnId < x.txnId := by
    rw [List.filter_filter]
    apply List.filter_congr
    intro x hx
    by_cases hlt : t.txnId < x.txnId
    · simp [Transaction.isAbove_of_lt habove hlt]
    · simp [hlt]
  have hless := List.length_filter_lt_length_iff_exists
    (l := log.filter fun x => x.isAbove watermark) (p := fun x => decide (t.txnId < x.txnId))
  rw [hnewer] at hless
  have hlt := hless.mpr ⟨t, List.mem_filter.mpr ⟨ht, habove⟩, by simp⟩
  exact (mem_newest_iff hlog ht hsince).mpr (by omega)

/-- A log as it has become by each of many times: payments are only added at its end. -/
structure GrowingLog (log : Nat → List Transaction) : Prop where
  grows : ∀ k, log k <+: log (k + 1)
  isLog : ∀ k, IsLog (log k)

namespace GrowingLog

variable {log : Nat → List Transaction}

theorem prefix_of_le
    (h : GrowingLog log) {j k : Nat} (hjk : j ≤ k) :
    log j <+: log k := by
  induction hjk with
  | refl => exact List.prefix_refl _
  | step _ ih => exact ih.trans (h.grows _)

/-- The dates of the log are in the order of its identifiers, whenever it is looked at. -/
theorem not_lt_of_le
    (h : GrowingLog log) {j m : Nat} {a t : Transaction}
    (ha : a ∈ log j) (ht : t ∈ log m) (hle : a.txnId ≤ t.txnId) :
    t.date.instant.lt a.date.instant = false := by
  have ha' := (h.prefix_of_le (Nat.le_max_left j m)).subset ha
  have ht' := (h.prefix_of_le (Nat.le_max_right j m)).subset ht
  exact (h.isLog (max j m)).not_lt_of_le ht' ha' hle

/-- What is added to the log has a greater identifier than what is there already. -/
theorem lt_of_added
    (h : GrowingLog log) {j m : Nat} {a t : Transaction}
    (ha : a ∈ log j) (ht : t ∈ log m) (hadded : t ∉ log j) :
    a.txnId < t.txnId := by
  have hjm : j ≤ m := by
    by_contra hlt
    exact hadded ((h.prefix_of_le (by omega)).subset ht)
  obtain ⟨added, heq⟩ := h.prefix_of_le hjm
  have hlog := h.isLog m
  rw [← heq, IsLog, List.pairwise_append] at hlog
  rw [← heq, List.mem_append] at ht
  exact (hlog.2.2 a ha t (ht.resolve_left hadded)).1

theorem mem_drop_succ
    (h : GrowingLog log) {first k : Nat} (hle : first ≤ k) {t : Transaction}
    (ht : t ∈ (log (k + 1)).drop (log first).length) (hold : t ∈ log k) :
    t ∈ (log k).drop (log first).length := by
  obtain ⟨added, heq⟩ := h.grows k
  have hlen := (h.prefix_of_le hle).length_le
  have hlog := h.isLog (k + 1)
  rw [← heq, IsLog, List.pairwise_append] at hlog
  rw [← heq, List.drop_append_of_le_length hlen, List.mem_append] at ht
  rcases ht with ht | ht
  · exact ht
  · have hlt := (hlog.2.2 t hold t ht).1
    grind

/-- What is not older than the newest payment of a page lies in the window that begins with the
page. -/
theorem isSince_oldestDate
    (h : GrowingLog log) {k m : Nat} {query : HistoryQuery}
    {first : Transaction} {rest : List Transaction}
    (hpage : first :: rest = newest (log k) query) {t : Transaction}
    (ht : t ∈ log m) (hle : first.txnId ≤ t.txnId) :
    t.isSince (some (oldestDate first.date.instant rest)) = true := by
  have hfirst : first ∈ log k := mem_of_mem_newest (hpage ▸ List.mem_cons_self)
  have hlt := Instant.not_lt_trans (h.not_lt_of_le hfirst ht hle)
    (not_lt_oldestDate first rest List.mem_cons_self)
  simp [Transaction.isSince, hlt]

end GrowingLog

end Poller

end WalletEvents
