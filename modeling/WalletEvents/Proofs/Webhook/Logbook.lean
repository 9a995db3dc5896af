import Mathlib.Data.List.Nodup
import WalletEvents.Proofs.Activity.Steps
import WalletEvents.Webhook.Router

/-!
# The steps of a notice

This module writes the work on one notice as the few steps that it takes on the
shared state:

* it looks for the fingerprint;
* if that is unknown and a key has signed the notice, it remembers the
  fingerprint;
* if that was new, it has the event processed.

A receiver with a logbook is the same receiver whose events are entered, with
the number of their request, before they are processed. The logbook changes no
response and nothing in the world of the handlers.
-/

namespace WalletEvents

variable {σ : Type}

/-- A world with the events that were handed over in it, each with the number of its request. -/
structure Logbook (σ : Type) where
  handed : List (Nat × Event)
  world : σ

namespace Logbook

/-- The logbook with one more event. -/
def enter (i : Nat) (e : Event) (book : Logbook σ) : Logbook σ :=
  { book with handed := book.handed ++ [(i, e)] }

/-- The events that a request has handed over. -/
def eventsOf (book : Logbook σ) (i : Nat) : List Event :=
  (book.handed.filter fun entry => entry.1 == i).map Prod.snd

theorem eventsOf_enter_self (i : Nat) (e : Event) (book : Logbook σ) :
    (book.enter i e).eventsOf i = book.eventsOf i ++ [e] := by
  simp [eventsOf, enter]

theorem eventsOf_enter_of_ne
    {i j : Nat} (h : i ≠ j) (e : Event) (book : Logbook σ) :
    (book.enter i e).eventsOf j = book.eventsOf j := by
  simp [eventsOf, enter, h]

theorem eventsOf_congr
    {book book' : Logbook σ} (h : book'.handed = book.handed) (i : Nat) :
    book'.eventsOf i = book.eventsOf i := by
  unfold eventsOf
  rw [h]

theorem mem_eventsOf_iff {book : Logbook σ} {i : Nat} {e : Event} :
    e ∈ book.eventsOf i ↔ (i, e) ∈ book.handed := by
  constructor
  · intro h
    obtain ⟨⟨j, e'⟩, hmem, rfl⟩ := List.mem_map.mp h
    obtain ⟨hmem, hj⟩ := List.mem_filter.mp hmem
    have hj : j = i := by simpa using hj
    exact hj ▸ hmem
  · intro h
    exact List.mem_map.mpr ⟨(i, e), List.mem_filter.mpr ⟨h, by simp⟩, rfl⟩

theorem length_eventsOf (book : Logbook σ) (i : Nat) :
    (book.eventsOf i).length = (book.handed.map Prod.fst).count i := by
  unfold eventsOf
  rw [List.length_map, ← List.countP_eq_length_filter, List.count_eq_countP, List.countP_map]
  rfl

/-- Where no request has handed over two events, any two entries are of different requests. -/
theorem pairwise_handed
    {book : Logbook σ} (h : ∀ i, (book.eventsOf i).length ≤ 1) :
    book.handed.Pairwise fun x y => x.1 ≠ y.1 := by
  have hnodup : (book.handed.map Prod.fst).Nodup := by
    rw [List.nodup_iff_count_le_one]
    intro i
    rw [← length_eventsOf]
    exact h i
  exact List.pairwise_map.mp hnodup

end Logbook

namespace SeenNotices

variable {seen : SeenNotices} {f g : Fingerprint}

theorem contains_iff : seen.contains f = true ↔ f ∈ seen.fingerprints := by
  simp [contains]

theorem remember_of_mem (h : f ∈ seen.fingerprints) :
    seen.remember f = (false, seen) := by
  simp [remember, h]

theorem remember_of_not_mem (h : f ∉ seen.fingerprints) :
    (seen.remember f).1 = true ∧
      (seen.remember f).2.fingerprints = f :: seen.fingerprints := by
  simp [remember, h]

end SeenNotices

namespace Receiver

/-- The same receiver, which enters every event under a number before it is processed. -/
def logged (r : Receiver σ) (i : Nat) : Receiver (Logbook σ) where
  secrets := r.secrets
  process e :=
    .act (fun _ book => book.enter i e) fun _ _ =>
      (r.process e).zoom Logbook.world fun world book => { book with world := world }

/-- What is left to do when the fingerprint of a notice has been remembered. -/
def afterRemember (r : Receiver σ) (kind : NoticeKind) (a : Arrival) (fresh : Bool) :
    Activity (Reception σ) Http.Response :=
  if fresh then
    (within (r.process a.event)).bind fun result =>
      .done (kind.response (result.mapError .handler))
  else .done kind.taken

/-- Remembers the fingerprint of a notice and goes on. -/
def rememberAndProcess (r : Receiver σ) (kind : NoticeKind) (a : Arrival) :
    Activity (Reception σ) Http.Response :=
  .act (fun _ s => { s with seen := (s.seen.remember a.fingerprint).2 }) fun _ s =>
    r.afterRemember kind a (s.seen.remember a.fingerprint).1

/-- What is left to do when the fingerprint of a notice has been looked for. -/
def afterLook (r : Receiver σ) (kind : NoticeKind) (a : Arrival) (known : Bool) :
    Activity (Reception σ) Http.Response :=
  if known then .done kind.taken
  else if (r.secrets.key? kind).any a.signedBy then r.rememberAndProcess kind a
  else .done (kind.response (.error (.wrongSignature kind)))

/-- Looks for the fingerprint of a notice and goes on. -/
def lookAndGoOn (r : Receiver σ) (kind : NoticeKind) (a : Arrival) :
    Activity (Reception σ) Http.Response :=
  .act (fun _ s => s) fun _ s =>
    r.afterLook kind a (s.seen.contains a.fingerprint)

variable {r : Receiver σ} {kind : NoticeKind} {q : Http.Request}

theorem endpoint_of_tooLong (h : maxBodyLength < q.body.length) :
    r.endpoint kind q = .done tooLong := by
  unfold endpoint
  rw [if_pos h]
  rfl

theorem endpoint_of_unread
    (hlen : ¬ maxBodyLength < q.body.length)
    (hread : Arrival.read? kind q.headers q.body = none) :
    r.endpoint kind q = .done (kind.response (.error .invalid)) := by
  unfold endpoint receive
  rw [if_neg hlen, hread]
  rfl

/-- The work on a notice begins with looking for its fingerprint. -/
theorem endpoint_of_arrival
    {a : Arrival}
    (hlen : ¬ maxBodyLength < q.body.length)
    (hread : Arrival.read? kind q.headers q.body = some a) :
    r.endpoint kind q = r.lookAndGoOn kind a := by
  unfold endpoint receive lookAndGoOn
  rw [if_neg hlen, hread]
  simp only [isKnown, Activity.read, Activity.bind_eq, Activity.act_bind, Activity.done_bind]
  congr 1
  funext t s
  cases hknown : s.seen.contains a.fingerprint with
  | true => rfl
  | false =>
      cases hsigned : (r.secrets.key? kind).any a.signedBy with
      | false =>
          simp only [afterLook, hsigned, Bool.false_eq_true, if_false, Bool.not_false, if_true]
          rfl
      | true =>
          simp only [afterLook, hsigned, Bool.false_eq_true, if_false, Bool.not_true, if_true,
            remember, Activity.modifyGet, Activity.act_bind, Activity.done_bind,
            rememberAndProcess]
          congr 1
          funext t' s'
          cases (s'.seen.remember a.fingerprint).1 with
          | false => rfl
          | true =>
              simp only [afterRemember, if_true, Bool.not_true, Bool.false_eq_true, if_false,
                Activity.bind_assoc, Activity.pure_eq_done, Activity.done_bind]

theorem within_logged_process (i : Nat) (e : Event) :
    within ((r.logged i).process e) =
      .act (fun _ s => { s with inner := s.inner.enter i e }) fun _ _ =>
        within ((r.process e).zoom Logbook.world fun world book => { book with world := world }) :=
  rfl

end Receiver

/-- The notices and the world without the logbook. -/
def Reception.withoutLogbook (s : Reception (Logbook σ)) : Reception σ := ⟨s.seen, s.inner.world⟩

/-- Runs of the first activity are runs of the second one, apart from the logbook. -/
def AgreeWithoutLogbook {α : Type} (p : Activity (Reception (Logbook σ)) α)
    (q : Activity (Reception σ) α) : Prop :=
  ∀ t s,
    ((p.run t s).1, (p.run t s).2.1, (p.run t s).2.2.withoutLogbook) =
      q.run t s.withoutLogbook

namespace Receiver

variable (r : Receiver σ) (i : Nat) (kind : NoticeKind)

theorem agree_done {α : Type} (a : α) :
    AgreeWithoutLogbook (σ := σ) (.done a) (.done a) :=
  fun _ _ => rfl

theorem agree_bind {α β : Type}
    {p : Activity (Reception (Logbook σ)) α} {q : Activity (Reception σ) α}
    {k : α → Activity (Reception (Logbook σ)) β} {l : α → Activity (Reception σ) β}
    (h : AgreeWithoutLogbook p q) (hk : ∀ a, AgreeWithoutLogbook (k a) (l a)) :
    AgreeWithoutLogbook (p.bind k) (q.bind l) := by
  intro t s
  rw [Activity.run_bind, Activity.run_bind, ← h t s]
  obtain ⟨value, t', s'⟩ := p.run t s
  cases value with
  | none => rfl
  | some a => exact hk a t' s'

theorem agree_process (e : Event) :
    AgreeWithoutLogbook (within ((r.logged i).process e)) (within (r.process e)) := by
  intro t s
  rw [within_logged_process]
  unfold within
  simp only [Activity.run]
  rw [Activity.run_zoom (by simp) (by simp) (by simp),
    Activity.run_zoom (by simp) (by simp) (by simp),
    Activity.run_zoom (by simp) (by simp) (by simp)]
  rfl

theorem agree_afterRemember (a : Arrival) (fresh : Bool) :
    AgreeWithoutLogbook ((r.logged i).afterRemember kind a fresh) (r.afterRemember kind a fresh) := by
  cases fresh with
  | false => exact agree_done _
  | true => exact agree_bind (agree_process r i a.event) fun _ => agree_done _

theorem agree_afterLook (a : Arrival) (known : Bool) :
    AgreeWithoutLogbook ((r.logged i).afterLook kind a known) (r.afterLook kind a known) := by
  cases known with
  | true => exact agree_done _
  | false =>
      unfold afterLook
      show AgreeWithoutLogbook
        (if (r.secrets.key? kind).any a.signedBy then (r.logged i).rememberAndProcess kind a
          else .done (kind.response (.error (.wrongSignature kind)))) _
      cases (r.secrets.key? kind).any a.signedBy with
      | false => exact agree_done _
      | true =>
          intro t s
          exact agree_afterRemember r i kind a _ t _

/-- A logbook changes neither the response to a request nor what else the request leaves behind. -/
theorem agree_endpoint (q : Http.Request) :
    AgreeWithoutLogbook ((r.logged i).endpoint kind q) (r.endpoint kind q) := by
  by_cases hlen : maxBodyLength < q.body.length
  · rw [endpoint_of_tooLong hlen, endpoint_of_tooLong hlen]
    exact agree_done _
  · cases hread : Arrival.read? kind q.headers q.body with
    | none =>
        rw [endpoint_of_unread hlen hread, endpoint_of_unread hlen hread]
        exact agree_done _
    | some a =>
        rw [endpoint_of_arrival hlen hread, endpoint_of_arrival hlen hread]
        intro t s
        exact agree_afterLook r i kind a _ t s

end Receiver

end WalletEvents
