import WalletEvents.Proofs.Activity.Trace

/-!
# Activities that are dropped

An activity in the background is dropped when the main activity ends, wherever it
stands then. `Activity.Alert` is about one that keeps something up to date whenever it
falls asleep and when it is over.

**Result.** `Trace.not_overdue`: at the end of the main activity everyone in the
background is over or is asleep until a later time. So nobody has been dropped who had
a step to take at that moment or before.
-/

namespace WalletEvents

namespace Activity

variable {σ ε γ α : Type}

/-- What is read off the state tells of the activity until when it sleeps, whenever it does, and that it
is over, when it is. -/
def Alert (get : σ → γ) (asleep : Nat → γ → Prop) (gone : γ → Prop) :
    Activity σ Unit → Nat → γ → Prop
  | .done _, _, c => gone c
  | .crash, _, c => gone c
  | .act update next, t, c => ∀ s, get s = c → (next t s).Alert get asleep gone t (get (update t s))
  | .sleep ms next, t, c => asleep (t + ms) c ∧ next.Alert get asleep gone (t + ms) c

variable {get : σ → γ} {asleep : Nat → γ → Prop} {gone : γ → Prop} {log : σ → List ε}
variable {t t' : Nat} {s s' : σ} {w : List ε} {a : α}

/-- An activity is over at a time, or asleep until a later one. -/
def NotOverdue (asleep : Nat → γ → Prop) (gone : γ → Prop) (t : Nat) (c : γ) : Prop :=
  gone c ∨ ∃ wake, t < wake ∧ asleep wake c

namespace Trace

theorem not_overdue_alongside
    {d e : Nat} {p : Activity σ Unit} {q : Activity σ α}
    (halert : p.Alert get asleep gone (t + d) (get s))
    (hasleep : 0 < d → asleep (t + d) (get s))
    (hq : q.Only (Unchanged get))
    (h : Trace (Unchanged get) log (alongside d p e q) t s w t' s' (some a)) :
    NotOverdue asleep gone t' (get s') := by
  fun_induction alongside d p e q generalizing t s w with
  | case1 e q =>
      cases h with
      | sleep hrest =>
          have hkept : Unchanged get s s' := hrest.of_only hq
          exact .inl (Eq.symm hkept ▸ halert)
  | case2 e q =>
      cases h with
      | sleep hrest =>
          have hkept : Unchanged get s s' := hrest.of_only hq
          exact .inl (Eq.symm hkept ▸ halert)
  | case3 update next e q ih =>
      cases h with
      | act hwait hlog hrest =>
          exact ih _ _ (halert _ hwait) (fun hlt => absurd hlt (Nat.lt_irrefl 0)) hq hrest
  | case4 ms next e q ih => exact ih halert.2 (fun _ => halert.1) hq h
  | case5 p d a =>
      obtain ⟨-, rfl, hkept, -⟩ := h.pure_inv
      refine .inr ⟨t' + (d + 1), by omega, ?_⟩
      rw [hkept]
      exact hasleep (by omega)
  | case6 => cases h
  | case7 d p update next ih =>
      cases h with
      | @act _ _ _ _ _ s₁ _ _ _ _ hwait hlog hrest =>
          have hkept : get (update t s₁) = get s := (hq t s₁).1.trans hwait
          exact ih t s₁ (hkept ▸ halert) (fun hlt => hkept ▸ hasleep hlt) (hq t s₁).2 hrest
  | case8 d p ms next ih => exact ih halert hasleep hq h
  | case9 d p e q least =>
      rename_i ih
      cases h with
      | sleep hrest =>
          have hwake : t + least + (d + 1 - least) = t + (d + 1) := by omega
          exact ih (hwake ▸ halert) (fun _ => hwake ▸ hasleep (Nat.succ_pos d)) hq hrest

/-- Nobody in the background is dropped with a step before it that was due. -/
theorem not_overdue
    {background : List (Activity σ Unit)} {i : Nat} {p : Activity σ Unit} {main : Activity σ α}
    (hp : background[i]? = some p)
    (halert : ∀ t c, p.Alert get asleep gone t c)
    (hothers : ∀ j q, j ≠ i → background[j]? = some q → q.Only (Unchanged get))
    (hmain : main.Only (Unchanged get))
    (hlog : ∀ s s', log s' = log s)
    (h : Trace (Unchanged get) log (withBackground background main) t s w t' s' (some a)) :
    NotOverdue asleep gone t' (get s') := by
  induction background generalizing i with
  | nil => simp at hp
  | cons q rest ih =>
      cases i with
      | zero =>
          obtain rfl : q = p := by simpa using hp
          refine h.not_overdue_alongside (halert _ _) (fun hlt => absurd hlt (Nat.lt_irrefl 0)) ?_
          refine only_withBackground (fun r hr => ?_) hmain
          obtain ⟨j, hj⟩ := List.mem_iff_getElem?.mp hr
          exact hothers (j + 1) r (Nat.succ_ne_zero j) (by simpa using hj)
      | succ i =>
          have hq := hothers 0 q (Nat.succ_ne_zero i).symm (by simp)
          have hsilent : q.Only (Unchanged log) := only_mono (only_true q) fun s s' _ => hlog s s'
          cases h.of_alongside hq hsilent with
          | sleep hrest =>
              exact ih (by simpa using hp)
                (fun j r hj hr => hothers (j + 1) r (by omega) (by simpa using hr)) hrest

end Trace

end Activity

end WalletEvents
