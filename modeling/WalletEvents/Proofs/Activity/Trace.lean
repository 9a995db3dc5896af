import Mathlib.Data.List.Forall2
import WalletEvents.Proofs.Activity.Guarantee

/-!
# What an activity writes on its way to its end

An activity shares its state with others, which may change it whenever the activity
looks away. `Activity.Trace R log` follows an activity through all that: the others
do to the state what `R` allows, and of the log that is read off the state only the
entries count that the activity has appended by itself.

**Input.** An activity, a time and a state.

**Output.** The entries in their order, the time and the state at the end, and the
value there, which is missing when the activity has broken off.

**Results.**

* `Activity.trace_of_run`: a run gives a trace, if all that is done to the log is to
  append to it.
* `Trace.bind_cases`, `Trace.guarded_inv`: traces of one activity after the other and
  of one that must not break off.
* `Trace.of_withBackground`: a trace with others in the background is a trace of the
  main activity alone, if the others do no more than `R` allows and leave the log as
  it is.
* `Activity.Returns`: an activity that never breaks off, whatever the others do.
-/

namespace WalletEvents

namespace Activity

variable {σ ε γ ι α β : Type}

/-- What others do leaves a part of the state as it is. -/
def Unchanged (get : σ → γ) (s s' : σ) : Prop := get s' = get s

instance (get : σ → γ) : IsPreorder σ (Unchanged get) where
  refl _ := rfl
  trans _ _ _ h h' := h'.trans h

/-- Only such entries have been appended to the log. -/
def Appends (log : σ → List ε) (C : ε → Prop) (s s' : σ) : Prop :=
  ∃ w, log s' = log s ++ w ∧ ∀ entry ∈ w, C entry

instance (log : σ → List ε) (C : ε → Prop) : IsPreorder σ (Appends log C) where
  refl _ := ⟨[], by simp⟩
  trans s s' s'' h h' := by
    obtain ⟨v, hv, hC⟩ := h
    obtain ⟨w, hw, hC'⟩ := h'
    refine ⟨v ++ w, by rw [hw, hv, List.append_assoc], fun entry hentry => ?_⟩
    exact (List.mem_append.mp hentry).elim (hC entry) (hC' entry)

theorem Appends.mono
    {log : σ → List ε} {C C' : ε → Prop} {s s' : σ}
    (h : Appends log C s s') (hC : ∀ entry, C entry → C' entry) :
    Appends log C' s s' := by
  obtain ⟨w, hw, hentries⟩ := h
  exact ⟨w, hw, fun entry hentry => hC entry (hentries entry hentry)⟩

/-- Others may do anything. -/
def Anything (_ _ : σ) : Prop := True

instance : IsPreorder σ Anything where
  refl _ := trivial
  trans _ _ _ _ _ := trivial

/-- The activity, begun at a time in a state, writes the entries to the log and ends at a time in a state
with a value or without one, while others change the state between its steps as they may. -/
inductive Trace (R : σ → σ → Prop) (log : σ → List ε) :
    Activity σ α → Nat → σ → List ε → Nat → σ → Option α → Prop
  | done
      {a : α} {t : Nat} {s s' : σ} (hwait : R s s') :
      Trace R log (.done a) t s [] t s' (some a)
  | crash
      {t : Nat} {s s' : σ} (hwait : R s s') :
      Trace R log .crash t s [] t s' none
  | act
      {update : Nat → σ → σ} {next : Nat → σ → Activity σ α} {t t' : Nat} {s s₁ s' : σ}
      {w v : List ε} {x : Option α} (hwait : R s s₁)
      (hlog : log (update t s₁) = log s₁ ++ w)
      (hrest : Trace R log (next t s₁) t (update t s₁) v t' s' x) :
      Trace R log (.act update next) t s (w ++ v) t' s' x
  | sleep
      {ms : Nat} {next : Activity σ α} {t t' : Nat} {s s' : σ} {w : List ε} {x : Option α}
      (hrest : Trace R log next (t + ms) s w t' s' x) :
      Trace R log (.sleep ms next) t s w t' s' x

/-- The activity, begun at a time, may write the entries to the log before it ends with a value. -/
def Writes (log : σ → List ε) (p : Activity σ α) (t : Nat) (w : List ε) : Prop :=
  ∃ s t' s' a, Trace Anything log p t s w t' s' (some a)

/-- Whenever the activity comes to its end, these are the entries that it has written to the log. -/
def AlwaysWrites (log : σ → List ε) (p : Activity σ α) (w : List ε) : Prop :=
  ∀ t s v t' s' a, Trace Anything log p t s v t' s' (some a) → v = w

theorem Writes.eq_of_always
    {log : σ → List ε} {p : Activity σ α} {t : Nat} {w v : List ε}
    (h : p.Writes log t w) (halways : p.AlwaysWrites log v) :
    w = v := by
  obtain ⟨s, t', s', a, htrace⟩ := h
  exact halways t s w t' s' a htrace

theorem eq_of_writes_of_always
    {log : σ → List ε} {ps : List (Activity σ α)} {t : Nat} {ws vs : List (List ε)}
    (h : List.Forall₂ (fun p w => p.Writes log t w) ps ws)
    (halways : List.Forall₂ (fun p v => p.AlwaysWrites log v) ps vs) :
    ws = vs := by
  induction h generalizing vs with
  | nil =>
      cases halways
      rfl
  | cons hfirst _ ih =>
      cases halways with
      | cons halways hrest => rw [hfirst.eq_of_always halways, ih hrest]

/-- The activity, begun at a time, may break off. -/
def MayBreakOff (log : σ → List ε) (p : Activity σ α) (t : Nat) : Prop :=
  ∃ s w t' s', Trace Anything log p t s w t' s' none

variable {R : σ → σ → Prop} {log : σ → List ε} {p : Activity σ α}
variable {t t' : Nat} {s s' : σ} {w : List ε} {x : Option α}

namespace Trace

theorem le (h : Trace R log p t s w t' s' x) :
    t ≤ t' := by
  induction h with
  | done => exact Nat.le_refl _
  | crash => exact Nat.le_refl _
  | act _ _ _ ih => exact ih
  | sleep _ ih => exact Nat.le_trans (Nat.le_add_right _ _) ih

/-- What others may do now, they may do when more is allowed. -/
theorem mono
    {R' : σ → σ → Prop} (hR : ∀ s s', R s s' → R' s s')
    (h : Trace R log p t s w t' s' x) :
    Trace R' log p t s w t' s' x := by
  induction h with
  | done hwait => exact .done (hR _ _ hwait)
  | crash hwait => exact .crash (hR _ _ hwait)
  | act hwait hlog _ ih => exact .act (hR _ _ hwait) hlog ih
  | sleep _ ih => exact .sleep ih

/-- Others may do something before the activity takes its first step. -/
theorem wait
    [IsTrans σ R] {s₁ : σ} (hwait : R s s₁) (h : Trace R log p t s₁ w t' s' x) :
    Trace R log p t s w t' s' x := by
  induction h with
  | done hlast => exact .done (trans_of R hwait hlast)
  | crash hlast => exact .crash (trans_of R hwait hlast)
  | act hlast hlog hrest _ => exact .act (trans_of R hwait hlast) hlog hrest
  | sleep _ ih => exact .sleep (ih hwait)

/-- An activity that does no more than the others may do leads to what they may lead to. -/
theorem of_only
    [IsTrans σ R] (hp : p.Only R) (h : Trace R log p t s w t' s' x) :
    R s s' := by
  induction h with
  | done hwait => exact hwait
  | crash hwait => exact hwait
  | @act update next t t' s s₁ s' w v x hwait hlog hrest ih =>
      exact trans_of R hwait (trans_of R (hp t s₁).1 (ih (hp t s₁).2))
  | sleep _ ih => exact ih hp

/-- All entries are of the kind that the activity only writes. -/
theorem forall_of_only
    {C : ε → Prop} {G : σ → σ → Prop} (hp : p.Only G)
    (hG : ∀ s s', G s s' → ∃ v, log s' = log s ++ v ∧ ∀ e ∈ v, C e)
    (h : Trace R log p t s w t' s' x) :
    ∀ e ∈ w, C e := by
  induction h with
  | done => simp
  | crash => simp
  | @act update next t t' s s₁ s' w v x hwait hlog hrest ih =>
      obtain ⟨u, hu, hC⟩ := hG _ _ (hp t s₁).1
      obtain rfl : w = u := List.append_cancel_left (hlog.symm.trans hu)
      intro e he
      rcases List.mem_append.mp he with he | he
      · exact hC e he
      · exact ih (hp t s₁).2 e he
  | sleep _ ih => exact ih hp

/-- An activity that leaves the log as it is writes nothing. -/
theorem eq_nil_of_only
    (hp : p.Only (Unchanged log)) (h : Trace R log p t s w t' s' x) :
    w = [] := by
  refine List.eq_nil_iff_forall_not_mem.mpr (h.forall_of_only hp fun s s' hs => ⟨[], ?_, by simp⟩)
  rw [List.append_nil]
  exact hs

theorem pure_inv {a : α} (h : Trace R log (.done a) t s w t' s' x) :
    w = [] ∧ t' = t ∧ R s s' ∧ x = some a := by
  cases h with
  | done hwait => exact ⟨rfl, rfl, hwait, rfl⟩

theorem modifyGet_inv
    {f : Nat → σ → α × σ} (h : Trace R log (.modifyGet f) t s w t' s' x) :
    ∃ s₁, R s s₁ ∧ log (f t s₁).2 = log s₁ ++ w ∧ t' = t ∧ R (f t s₁).2 s' ∧
      x = some (f t s₁).1 := by
  cases h with
  | act hwait hlog hrest =>
      obtain ⟨rfl, rfl, hlast, rfl⟩ := hrest.pure_inv
      exact ⟨_, hwait, by simpa using hlog, rfl, hlast, rfl⟩

theorem modify_inv
    {f : Nat → σ → σ} {x : Option Unit} (h : Trace R log (.modify f) t s w t' s' x) :
    ∃ s₁, R s s₁ ∧ log (f t s₁) = log s₁ ++ w ∧ t' = t ∧ R (f t s₁) s' ∧ x = some () := by
  cases h with
  | act hwait hlog hrest =>
      obtain ⟨rfl, rfl, hlast, rfl⟩ := hrest.pure_inv
      exact ⟨_, hwait, by simpa using hlog, rfl, hlast, rfl⟩

theorem pause_inv
    {ms : Nat} {x : Option Unit} (h : Trace R log (.pause ms) t s w t' s' x) :
    w = [] ∧ t' = t + ms ∧ R s s' ∧ x = some () := by
  cases h with
  | sleep hrest => exact hrest.pure_inv

/-- A trace of one activity after the other goes through both, or breaks off in the first. -/
theorem bind_cases
    [IsPreorder σ R] {k : α → Activity σ β} {y : Option β}
    (h : Trace R log (p >>= k) t s w t' s' y) :
    (∃ a w₁ w₂ t₁ s₁, w = w₁ ++ w₂ ∧ Trace R log p t s w₁ t₁ s₁ (some a) ∧
      Trace R log (k a) t₁ s₁ w₂ t' s' y) ∨
    (y = none ∧ Trace R log p t s w t' s' none) := by
  induction p generalizing t s w with
  | done a => exact .inl ⟨a, [], w, t, s, rfl, .done (refl_of R s), h⟩
  | crash =>
      cases h with
      | crash hwait => exact .inr ⟨rfl, .crash hwait⟩
  | act update next ih =>
      cases h with
      | @act _ _ _ _ _ s₀ _ v₀ v _ hwait hlog hrest =>
          rcases ih t s₀ hrest with ⟨a, w₁, w₂, t₁, s₁, rfl, hfirst, hsecond⟩ | ⟨rfl, hfirst⟩
          · exact .inl ⟨a, v₀ ++ w₁, w₂, t₁, s₁, by simp, .act hwait hlog hfirst, hsecond⟩
          · exact .inr ⟨rfl, .act hwait hlog hfirst⟩
  | sleep ms next ih =>
      cases h with
      | sleep hrest =>
          rcases ih hrest with ⟨a, w₁, w₂, t₁, s₁, rfl, hfirst, hsecond⟩ | ⟨rfl, hfirst⟩
          · exact .inl ⟨a, w₁, w₂, t₁, s₁, rfl, .sleep hfirst, hsecond⟩
          · exact .inr ⟨rfl, .sleep hfirst⟩

/-- A trace that ends with a value has gone through both activities. -/
theorem bind_inv
    [IsPreorder σ R] {k : α → Activity σ β} {b : β}
    (h : Trace R log (p >>= k) t s w t' s' (some b)) :
    ∃ a w₁ w₂ t₁ s₁, w = w₁ ++ w₂ ∧ Trace R log p t s w₁ t₁ s₁ (some a) ∧
      Trace R log (k a) t₁ s₁ w₂ t' s' (some b) := by
  rcases h.bind_cases with hboth | ⟨hnone, -⟩
  · exact hboth
  · cases hnone

theorem guarded_inv {y : Option (Option α)} (h : Trace R log p.guarded t s w t' s' y) :
    ∃ x, y = some x ∧ Trace R log p t s w t' s' x := by
  induction p generalizing t s w with
  | done a =>
      obtain ⟨rfl, rfl, hwait, rfl⟩ := h.pure_inv
      exact ⟨some a, rfl, .done hwait⟩
  | crash =>
      obtain ⟨rfl, rfl, hwait, rfl⟩ := h.pure_inv
      exact ⟨none, rfl, .crash hwait⟩
  | act update next ih =>
      cases h with
      | act hwait hlog hrest =>
          obtain ⟨x, rfl, hx⟩ := ih _ _ hrest
          exact ⟨x, rfl, .act hwait hlog hx⟩
  | sleep ms next ih =>
      cases h with
      | sleep hrest =>
          obtain ⟨x, rfl, hx⟩ := ih hrest
          exact ⟨x, rfl, .sleep hx⟩

end Trace

/-- A trace of an activity on a part of the state is one of that part, where others may do anything. -/
theorem Trace.of_zoom
    {τ : Type} {get : τ → σ} {set : σ → τ → τ} (log : σ → List ε) (hget : ∀ s x, get (set s x) = s)
    {u v : τ} {y : Option α}
    (h : Trace Anything (fun x => log (get x)) (p.zoom get set) t u w t' v y) :
    Trace Anything log p t (get u) w t' (get v) y := by
  induction p generalizing t u w with
  | done a =>
      obtain ⟨rfl, rfl, -, rfl⟩ := h.pure_inv
      exact .done trivial
  | crash =>
      cases h with
      | crash => exact .crash trivial
  | act update next ih =>
      cases h with
      | act hwait happended hrest =>
          have hnext := ih _ _ hrest
          rw [hget] at happended hnext
          exact .act trivial happended hnext
  | sleep ms next ih =>
      cases h with
      | sleep hrest => exact .sleep (ih hrest)

/-- The activity comes to its end, whatever happens to the state between its steps. -/
def Returns : Activity σ α → Prop
  | .done _ => True
  | .crash => False
  | .act _ next => ∀ t s, (next t s).Returns
  | .sleep _ next => next.Returns

theorem returns_modify (f : Nat → σ → σ) :
    (modify f).Returns := fun _ _ => trivial

theorem returns_modifyGet (f : Nat → σ → α × σ) :
    (modifyGet f).Returns := fun _ _ => trivial

theorem returns_guarded (p : Activity σ α) :
    p.guarded.Returns := by
  induction p with
  | done a => trivial
  | crash => trivial
  | act update next ih => exact ih
  | sleep ms next ih => exact ih

/-- One activity after the other, when only some values can come up in between. -/
theorem returns_bind_of_yields
    {post : α → Prop} {k : α → Activity σ β}
    (hp : p.Returns) (hyields : p.Yields post) (hk : ∀ a, post a → (k a).Returns) :
    (p >>= k).Returns := by
  induction p with
  | done a => exact hk a hyields
  | crash => exact hp.elim
  | act update next ih => exact fun t s => ih t s (hp t s) (hyields t s)
  | sleep ms next ih => exact ih hp hyields

theorem returns_bind
    {k : α → Activity σ β} (hp : p.Returns) (hk : ∀ a, (k a).Returns) :
    (p >>= k).Returns :=
  returns_bind_of_yields hp (yields_true p) fun a _ => hk a

theorem yields_guarded_of_returns (hp : p.Returns) :
    p.guarded.Yields fun x => ∃ a, x = some a := by
  induction p with
  | done a => exact ⟨a, rfl⟩
  | crash => exact hp.elim
  | act update next ih => exact fun t s => ih t s (hp t s)
  | sleep ms next ih => exact ih hp

theorem returns_mapM
    {f : ι → Activity σ α} {xs : List ι} (h : ∀ x ∈ xs, (f x).Returns) :
    (xs.mapM f).Returns := by
  induction xs with
  | nil =>
      rw [List.mapM_nil]
      trivial
  | cons x xs ih =>
      rw [List.mapM_cons]
      refine returns_bind (h x (by simp)) fun a => ?_
      exact returns_bind (ih fun y hy => h y (by simp [hy])) fun _ => trivial

theorem returns_zoom
    {τ : Type} {get : τ → σ} {set : σ → τ → τ} (hp : p.Returns) :
    (p.zoom get set).Returns := by
  induction p with
  | done a => trivial
  | crash => exact hp
  | act update next ih => exact fun t x => ih t (get x) (hp t (get x))
  | sleep ms next ih => exact ih hp

theorem Trace.isSome_of_returns (hp : p.Returns) (h : Trace R log p t s w t' s' x) :
    ∃ a, x = some a := by
  induction h with
  | done => exact ⟨_, rfl⟩
  | crash => exact hp.elim
  | act _ _ _ ih => exact ih (hp _ _)
  | sleep _ ih => exact ih hp

theorem exists_run_of_returns (hp : p.Returns) (t : Nat) (s : σ) :
    ∃ a t' s', p.run t s = (some a, t', s') := by
  induction p generalizing t s with
  | done a => exact ⟨a, t, s, rfl⟩
  | crash => exact hp.elim
  | act update next ih => exact ih t s (hp t s) t (update t s)
  | sleep ms next ih => exact ih hp (t + ms) s

/-- A trace goes on from where a first activity has ended that always does. -/
theorem Trace.bind_returns
    [IsPreorder σ R] {k : α → Activity σ β} {y : Option β} (hreturns : p.Returns)
    (h : Trace R log (p >>= k) t s w t' s' y) :
    ∃ a w₁ w₂ t₁ s₁, w = w₁ ++ w₂ ∧ Trace R log p t s w₁ t₁ s₁ (some a) ∧
      Trace R log (k a) t₁ s₁ w₂ t' s' y := by
  rcases h.bind_cases with hboth | ⟨-, hfirst⟩
  · exact hboth
  · obtain ⟨a, hnone⟩ := hfirst.isSome_of_returns hreturns
    cases hnone

/-- In front of the rest there is an activity that always ends and writes nothing. -/
theorem Trace.bind_silent
    [IsPreorder σ R] {k : α → Activity σ β} {y : Option β}
    (hreturns : p.Returns) (hsilent : p.Only (Unchanged log))
    (h : Trace R log (p >>= k) t s w t' s' y) :
    ∃ a t₁ s₁, Trace R log p t s [] t₁ s₁ (some a) ∧ Trace R log (k a) t₁ s₁ w t' s' y := by
  obtain ⟨a, w₁, w₂, t₁, s₁, rfl, hfirst, hrest⟩ := h.bind_returns hreturns
  obtain rfl := hfirst.eq_nil_of_only hsilent
  exact ⟨a, t₁, s₁, hfirst, hrest⟩

/-- A run gives a trace in which nobody else does anything. -/
theorem trace_of_run
    (R : σ → σ → Prop) [Std.Refl R] (log : σ → List ε) {G : σ → σ → Prop} (hp : p.Only G)
    (hG : ∀ s s', G s s' → ∃ v, log s' = log s ++ v)
    (h : p.run t s = (x, t', s')) :
    ∃ w, log s' = log s ++ w ∧ Trace R log p t s w t' s' x := by
  induction p generalizing t s with
  | done a =>
      cases h
      exact ⟨[], by simp, .done (refl_of R _)⟩
  | crash =>
      cases h
      exact ⟨[], by simp, .crash (refl_of R _)⟩
  | act update next ih =>
      obtain ⟨v, hv⟩ := hG _ _ (hp t s).1
      obtain ⟨w, hw, htrace⟩ := ih t s (hp t s).2 h
      exact ⟨v ++ w, by rw [hw, hv, List.append_assoc], .act (refl_of R s) hv htrace⟩
  | sleep ms next ih =>
      obtain ⟨w, hw, htrace⟩ := ih hp h
      exact ⟨w, hw, .sleep htrace⟩

namespace Trace

variable [IsPreorder σ R]

/-- What an activity in the background does counts as done by others. -/
theorem of_alongside
    {d e : Nat} {p : Activity σ Unit} {q : Activity σ α}
    (hR : p.Only R) (hlog : p.Only (Unchanged log))
    (h : Trace R log (alongside d p e q) t s w t' s' x) :
    Trace R log (.sleep e q) t s w t' s' x := by
  fun_induction alongside d p e q generalizing t s w with
  | case1 e q => exact h
  | case2 e q => exact h
  | case3 update next e q ih =>
      cases h with
      | @act _ _ _ _ _ s₁ _ v₀ v _ hwait happended hrest =>
          have hv : v₀ = [] := List.append_cancel_left
            (happended.symm.trans ((hlog t s₁).1.trans (List.append_nil _).symm))
          rw [hv]
          exact (ih t s₁ (hR t s₁).2 (hlog t s₁).2 hrest).wait
            (trans_of R hwait (hR t s₁).1)
  | case4 ms next e q ih => exact ih hR hlog h
  | case5 => exact .sleep h
  | case6 => exact .sleep h
  | case7 d p update next ih =>
      cases h with
      | act hwait happended hrest =>
          cases ih _ _ hR hlog hrest with
          | sleep hnext => exact .sleep (.act hwait happended hnext)
  | case8 d p ms next ih => exact .sleep (ih hR hlog h)
  | case9 d p e q least =>
      rename_i ih
      cases h with
      | sleep hrest =>
          cases ih hR hlog hrest with
          | sleep hnext =>
              have htime : t + least + (e + 1 - least) = t + (e + 1) := by omega
              rw [htime] at hnext
              exact .sleep hnext

theorem of_withBackground
    {background : List (Activity σ Unit)} {main : Activity σ α}
    (hR : ∀ p ∈ background, p.Only R) (hlog : ∀ p ∈ background, p.Only (Unchanged log))
    (h : Trace R log (withBackground background main) t s w t' s' x) :
    Trace R log main t s w t' s' x := by
  induction background with
  | nil => exact h
  | cons p rest ih =>
      cases h.of_alongside (hR p (by simp)) (hlog p (by simp)) with
      | sleep hrest =>
          exact ih (fun q hq => hR q (by simp [hq])) (fun q hq => hlog q (by simp [hq])) hrest

end Trace

/-- With its first step the activity appends the entry to the log, and leaves it as it is from then on. -/
def Announces (log : σ → List ε) (entry : ε) : Activity σ α → Prop
  | .act update next => ∀ t s, log (update t s) = log s ++ [entry] ∧
      (next t s).Only (Unchanged log)
  | _ => False

theorem Announces.only_appends
    {entry : ε} {p : Activity σ α} (h : p.Announces log entry) :
    p.Only (Appends log fun _ => True) := by
  cases p with
  | done a => exact h.elim
  | crash => exact h.elim
  | sleep ms next => exact h.elim
  | act update next =>
      intro t s
      obtain ⟨hfirst, hrest⟩ := h t s
      refine ⟨⟨[entry], hfirst, by simp⟩, only_mono hrest fun _ _ hkept => ⟨[], ?_, by simp⟩⟩
      rw [List.append_nil]
      exact hkept

theorem announces_zoom
    {τ : Type} {get : τ → σ} {set : σ → τ → τ} {log : σ → List ε} {log' : τ → List ε} {entry : ε}
    {p : Activity σ α} (hp : p.Announces log entry)
    (hlog : ∀ s x v, log s = log (get x) ++ v → log' (set s x) = log' x ++ v) :
    (p.zoom get set).Announces log' entry := by
  cases p with
  | done a => exact hp
  | crash => exact hp
  | sleep ms next => exact hp
  | act update next =>
      intro t x
      obtain ⟨hfirst, hrest⟩ := hp t (get x)
      refine ⟨hlog _ x _ hfirst, only_zoom hrest fun s y hs => ?_⟩
      have hkept := hlog s y [] (by rw [List.append_nil]; exact hs)
      rwa [List.append_nil] at hkept

/-- All that is in the background comes in before the main activity, one after the other. -/
theorem Trace.of_announcing
    {background : List (Activity σ Unit)} {entries : List ε} {main : Activity σ α}
    (hbackground : List.Forall₂ (fun p entry => p.Announces log entry) background entries)
    (h : Trace Anything log (withBackground background main) t s w t' s' x) :
    ∃ v s₁, w = entries ++ v ∧ Trace Anything log main t s₁ v t' s' x := by
  induction hbackground generalizing s w with
  | nil => exact ⟨w, s, rfl, h⟩
  | @cons p entry rest entries hfirst _ ih =>
      cases p with
      | done a => exact hfirst.elim
      | crash => exact hfirst.elim
      | sleep ms next => exact hfirst.elim
      | act update next =>
          have hstep : withBackground (.act update next :: rest) main =
              .act update fun t s => alongside 0 (next t s) 0 (withBackground rest main) := by
            rw [withBackground, List.foldr_cons, alongside]
            rfl
          rw [hstep] at h
          cases h with
          | @act _ _ _ _ _ s₁ _ v₀ v _ hwait happended hrest =>
              obtain ⟨hlog, hsilent⟩ := hfirst t s₁
              obtain rfl : v₀ = [entry] := List.append_cancel_left (happended.symm.trans hlog)
              have hany : (next t s₁).Only Anything := only_true _
              cases hrest.of_alongside hany hsilent with
              | sleep hothers =>
                  obtain ⟨u, s₂, rfl, hmain⟩ := ih hothers
                  exact ⟨u, s₂, rfl, hmain⟩

/-- A run with announcing activities in the background begins with their entries. -/
theorem trace_of_run_announcing
    {background : List (Activity σ Unit)} {entries : List ε} {main : Activity σ α} {C : ε → Prop}
    (hbackground : List.Forall₂ (fun p entry => p.Announces log entry) background entries)
    (hmain : main.Only (Appends log C))
    (h : (withBackground background main).run t s = (x, t', s')) :
    ∃ v s₁, log s' = log s ++ (entries ++ v) ∧ Trace Anything log main t s₁ v t' s' x := by
  have hwhole : (withBackground background main).Only (Appends log fun _ => True) := by
    refine only_withBackground (fun p hp => ?_)
      (only_mono hmain fun _ _ happended => happended.mono fun _ _ => trivial)
    obtain ⟨i, hi, rfl⟩ := List.mem_iff_getElem.mp hp
    obtain ⟨hlength, hget⟩ := List.forall₂_iff_get.mp hbackground
    exact (hget i hi (hlength ▸ hi)).only_appends
  obtain ⟨w, hw, htrace⟩ := trace_of_run Anything log hwhole
    (fun _ _ happended => happended.imp fun _ => And.left) h
  obtain ⟨v, s₁, rfl, hmain'⟩ := htrace.of_announcing hbackground
  exact ⟨v, s₁, hw, hmain'⟩

/-- The other entries of such a run are of the kind that the main activity and what comes after it append. -/
theorem run_of_announcing
    {background : List (Activity σ Unit)} {entries : List ε} {main : Activity σ α}
    {k : α → Activity σ β} {y : Option β} {C : ε → Prop}
    (hbackground : List.Forall₂ (fun p entry => p.Announces log entry) background entries)
    (hmain : main.Only (Appends log C)) (hk : ∀ a, (k a).Only (Appends log C))
    (h : (withBackground background main >>= k).run t s = (y, t', s')) :
    ∃ v, log s' = log s ++ (entries ++ v) ∧ ∀ entry ∈ v, C entry := by
  rcases hfirst : (withBackground background main).run t s with ⟨x, t₁, s₁⟩
  obtain ⟨v, _, hv, htrace⟩ := trace_of_run_announcing hbackground hmain hfirst
  have hentries : ∀ entry ∈ v, C entry := htrace.forall_of_only hmain fun _ _ happended => happended
  rw [bind_eq, run_bind, hfirst] at h
  cases x with
  | none =>
      cases h
      exact ⟨v, hv, hentries⟩
  | some a =>
      obtain ⟨u, hu, hlater⟩ := (hk a).of_run h
      refine ⟨v ++ u, by simp only [hu, hv, List.append_assoc], fun entry hentry => ?_⟩
      exact (List.mem_append.mp hentry).elim (hentries entry) (hlater entry)

end Activity

end WalletEvents
