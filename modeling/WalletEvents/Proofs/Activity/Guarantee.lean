import Mathlib.Order.Defs.Unbundled
import WalletEvents.Activity.Gather
import WalletEvents.Proofs.Activity.Steps

/-!
# What an activity may do to the state

`Activity.Only G` says that every change that an activity makes to the state is one
of the changes `G`, at whatever time and in whatever state it takes the step. It
asks nothing of what others do in between, so it goes over to everything that
activities are put together to:

* one activity after the other, and one for each entry of a list;
* an activity on a part of the state;
* an activity that gives nothing in place of breaking off;
* activities in the background of another one, and groups of activities.
-/

namespace WalletEvents

namespace Activity

variable {σ τ ι α β : Type} {G : σ → σ → Prop}

/-- Every change that the activity makes to the state is one of these. -/
def Only (G : σ → σ → Prop) : Activity σ α → Prop
  | .done _ => True
  | .crash => True
  | .act update next => ∀ t s, G s (update t s) ∧ (next t s).Only G
  | .sleep _ next => next.Only G

theorem only_pure (a : α) :
    (pure a : Activity σ α).Only G := trivial

theorem only_mono
    {G' : σ → σ → Prop} {p : Activity σ α}
    (hp : p.Only G) (h : ∀ s s', G s s' → G' s s') :
    p.Only G' := by
  induction p with
  | done a => trivial
  | crash => trivial
  | act update next ih => exact fun t s => ⟨h _ _ (hp t s).1, ih t s (hp t s).2⟩
  | sleep ms next ih => exact ih hp

/-- One activity after the other, when only some values can come up in between. -/
theorem only_bind_of_yields
    {post : α → Prop} {p : Activity σ α} {k : α → Activity σ β}
    (hp : p.Only G) (hyields : p.Yields post) (hk : ∀ a, post a → (k a).Only G) :
    (p >>= k).Only G := by
  induction p with
  | done a => exact hk a hyields
  | crash => trivial
  | act update next ih =>
      exact fun t s => ⟨(hp t s).1, ih t s (hp t s).2 (hyields t s)⟩
  | sleep ms next ih => exact ih hp hyields

theorem only_bind
    {p : Activity σ α} {k : α → Activity σ β}
    (hp : p.Only G) (hk : ∀ a, (k a).Only G) :
    (p >>= k).Only G :=
  only_bind_of_yields hp (yields_true p) fun a _ => hk a

theorem only_modify
    {f : Nat → σ → σ} (h : ∀ t s, G s (f t s)) :
    (modify f).Only G :=
  fun t s => ⟨h t s, trivial⟩

theorem only_modifyGet
    {f : Nat → σ → α × σ} (h : ∀ t s, G s (f t s).2) :
    (modifyGet f).Only G :=
  fun t s => ⟨h t s, trivial⟩

theorem only_read [Std.Refl G] (f : σ → α) :
    (read f).Only G :=
  fun _ s => ⟨refl_of G s, trivial⟩

theorem only_pause (ms : Nat) :
    (pause ms : Activity σ Unit).Only G := trivial

/-- An activity on a part of the state only makes the changes that its own make to the whole. -/
theorem only_zoom
    {H : τ → τ → Prop} {get : τ → σ} {set : σ → τ → τ} {p : Activity σ α}
    (hp : p.Only G) (h : ∀ s x, G (get x) s → H x (set s x)) :
    (p.zoom get set).Only H := by
  induction p with
  | done a => trivial
  | crash => trivial
  | act update next ih =>
      intro t x
      exact ⟨h _ _ (hp t (get x)).1, ih t (get x) (hp t (get x)).2⟩
  | sleep ms next ih => exact ih hp

/-- Any activity does something to the state. -/
theorem only_true (p : Activity σ α) :
    p.Only fun _ _ => True := by
  induction p with
  | done a => trivial
  | crash => trivial
  | act update next ih => exact fun t s => ⟨trivial, ih t s⟩
  | sleep ms next ih => exact ih

/-- A run leads to what the changes of the activity may lead to. -/
theorem Only.of_run
    [IsPreorder σ G] {p : Activity σ α} {t t' : Nat} {s s' : σ} {x : Option α}
    (hp : p.Only G) (h : p.run t s = (x, t', s')) :
    G s s' := by
  induction p generalizing t s with
  | done a =>
      cases h
      exact refl_of G _
  | crash =>
      cases h
      exact refl_of G _
  | act update next ih => exact trans_of G (hp t s).1 (ih t s (hp t s).2 h)
  | sleep ms next ih => exact ih hp h

theorem only_guarded {p : Activity σ α} (hp : p.Only G) :
    p.guarded.Only G := by
  induction p with
  | done a => trivial
  | crash => trivial
  | act update next ih => exact fun t s => ⟨(hp t s).1, ih t s (hp t s).2⟩
  | sleep ms next ih => exact ih hp

theorem only_mapM
    {f : ι → Activity σ α} {xs : List ι} (h : ∀ x ∈ xs, (f x).Only G) :
    (xs.mapM f).Only G := by
  induction xs with
  | nil =>
      rw [List.mapM_nil]
      exact only_pure []
  | cons x xs ih =>
      rw [List.mapM_cons]
      refine only_bind (h x (by simp)) fun a => ?_
      exact only_bind (ih fun y hy => h y (by simp [hy])) fun _ => only_pure _

theorem only_alongside
    {d e : Nat} {p : Activity σ Unit} {q : Activity σ α}
    (hp : p.Only G) (hq : q.Only G) :
    (alongside d p e q).Only G := by
  fun_induction alongside d p e q with
  | case1 e q => exact hq
  | case2 e q => exact hq
  | case3 update next e q ih => exact fun t s => ⟨(hp t s).1, ih t s (hp t s).2 hq⟩
  | case4 ms next e q ih => exact ih hp hq
  | case5 => trivial
  | case6 => trivial
  | case7 d p update next ih => exact fun t s => ⟨(hq t s).1, ih t s hp (hq t s).2⟩
  | case8 d p ms next ih => exact ih hp hq
  | case9 d p e q least ih => exact ih hp hq

theorem only_withBackground
    {background : List (Activity σ Unit)} {main : Activity σ α}
    (hbackground : ∀ p ∈ background, p.Only G) (hmain : main.Only G) :
    (withBackground background main).Only G := by
  induction background with
  | nil => exact hmain
  | cons p rest ih =>
      exact only_alongside (hbackground p (by simp)) (ih fun q hq => hbackground q (by simp [hq]))

theorem only_after {ms : Nat} {p : Activity σ α} (hp : p.Only G) :
    (after ms p).Only G := by
  unfold after
  split
  · exact hp
  · exact hp

/-- The activities of a group after one of them has taken a step. -/
theorem Sleeper.forall_replaceAfter
    {sleepers : List (Sleeper σ α)} {ms i : Nat} {q : Sleeper σ α} {P : Activity σ α → Prop}
    (h : ∀ p ∈ sleepers, P p.rest) (hq : P q.rest) :
    ∀ p ∈ replaceAfter sleepers ms i q, P p.rest := by
  intro p hp
  rcases List.mem_or_eq_of_mem_set hp with hother | rfl
  · obtain ⟨other, hmem, rfl⟩ := List.mem_map.mp hother
    exact h other hmem
  · exact hq

theorem only_gatherFrom
    {large : Bool} {next : Nat} {sleepers : List (Sleeper σ α)}
    (h : ∀ p ∈ sleepers, p.rest.Only G) :
    (gatherFrom large next sleepers).Only G := by
  have mem_of_first {sleepers : List (Sleeper σ α)} {i : Nat} {p : Sleeper σ α}
      (hfirst : Sleeper.first? sleepers = some (i, p)) : p ∈ sleepers :=
    List.mem_of_getElem? (Sleeper.get?_first? hfirst)
  fun_induction gatherFrom large next sleepers with
  | case1 => trivial
  | case2 => exact only_after trivial
  | case3 => exact only_after trivial
  | case4 next sleepers i p hfirst update rest hrest ih =>
      have hp := h p (mem_of_first hfirst)
      rw [hrest] at hp
      exact only_after fun t s =>
        ⟨(hp t s).1, ih t s (Sleeper.forall_replaceAfter h (hp t s).2)⟩
  | case5 next sleepers i p hfirst ms rest hrest number ih =>
      have hp := h p (mem_of_first hfirst)
      rw [hrest] at hp
      exact only_after (ih (Sleeper.forall_replaceAfter h hp))

theorem only_gather {group : List (Activity σ α)} (h : ∀ p ∈ group, p.Only G) :
    (gather group).Only G := by
  refine only_gatherFrom fun p hp => ?_
  obtain ⟨i, hi, rfl⟩ := List.mem_mapIdx.mp hp
  exact h _ (List.getElem_mem hi)

end Activity

end WalletEvents
