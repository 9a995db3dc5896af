import WalletEvents.Activity

/-!
# Steps and runs of activities

This module collects what other modules use of activities: the laws of going on
with another activity, the single step of an activity, and what a run of an
activity that is made of others gives.

`Activity.Keeps` says that no step of an activity changes what is read off the
state.
-/

namespace WalletEvents

namespace Activity

variable {σ τ α β γ δ : Type}

/-- The state after the next step and what is left then, unless the activity has ended. -/
def step? (t : Nat) (s : σ) : Activity σ α → Option (σ × Activity σ α)
  | .done _ => none
  | .crash => none
  | .act update next => some (update t s, next t s)
  | .sleep _ next => some (s, next)

/-- Whether an activity has ended, with a value or without one. -/
def hasEnded : Activity σ α → Bool
  | .done _ => true
  | .crash => true
  | .act _ _ => false
  | .sleep _ _ => false

/-- No step of the activity changes what is read off the state. -/
def Keeps (get : σ → γ) : Activity σ α → Prop
  | .done _ => True
  | .crash => True
  | .act update next => ∀ t s, get (update t s) = get s ∧ (next t s).Keeps get
  | .sleep _ next => next.Keeps get

/-- Every value that the activity can end with has the property, whatever happens to the state between
its steps. -/
def Yields (post : α → Prop) : Activity σ α → Prop
  | .done a => post a
  | .crash => True
  | .act _ next => ∀ t s, (next t s).Yields post
  | .sleep _ next => next.Yields post

theorem pure_eq_done (a : α) :
    (pure a : Activity σ α) = .done a := rfl

theorem bind_eq (p : Activity σ α) (k : α → Activity σ β) :
    p >>= k = p.bind k := rfl

/-- Going on twice is going on with an activity that goes on. -/
theorem bind_assoc (p : Activity σ α) (k : α → Activity σ β) (l : β → Activity σ γ) :
    (p.bind k).bind l = p.bind fun a => (k a).bind l := by
  induction p with
  | done a => rfl
  | crash => rfl
  | act update next ih =>
      simp only [Activity.bind]
      congr 1
      funext t s
      exact ih t s
  | sleep ms next ih =>
      simp only [Activity.bind]
      rw [ih]

instance : LawfulMonad (Activity σ) := LawfulMonad.mk' (Activity σ)
  (fun p => by
    induction p with
    | done a => rfl
    | crash => rfl
    | act update next ih => exact congrArg (Activity.act update) (funext fun t => funext (ih t))
    | sleep ms next ih => exact congrArg (Activity.sleep ms) ih)
  (fun _ _ => rfl)
  bind_assoc

@[simp] theorem done_bind (a : α) (k : α → Activity σ β) :
    (Activity.done a).bind k = k a := rfl

@[simp] theorem crash_bind (k : α → Activity σ β) :
    (Activity.crash : Activity σ α).bind k = .crash := rfl

@[simp] theorem act_bind
    (update : Nat → σ → σ) (next : Nat → σ → Activity σ α)
    (k : α → Activity σ β) :
    (Activity.act update next).bind k =
      .act update fun t s => (next t s).bind k := rfl

@[simp] theorem sleep_bind
    (ms : Nat) (next : Activity σ α) (k : α → Activity σ β) :
    (Activity.sleep ms next).bind k = .sleep ms (next.bind k) := rfl

theorem keeps_bind
    {get : σ → γ} {p : Activity σ α} {k : α → Activity σ β}
    (hp : p.Keeps get) (hk : ∀ a, (k a).Keeps get) :
    (p.bind k).Keeps get := by
  induction p with
  | done a => exact hk a
  | crash => trivial
  | act update next ih =>
      intro t s
      exact ⟨(hp t s).1, ih t s (hp t s).2⟩
  | sleep ms next ih => exact ih hp

theorem yields_true (p : Activity σ α) :
    p.Yields fun _ => True := by
  induction p with
  | done a => trivial
  | crash => trivial
  | act update next ih => exact ih
  | sleep ms next ih => exact ih

theorem yields_mono
    {post post' : α → Prop} {p : Activity σ α}
    (hp : p.Yields post) (h : ∀ a, post a → post' a) :
    p.Yields post' := by
  induction p with
  | done a => exact h a hp
  | crash => trivial
  | act update next ih => exact fun t s => ih t s (hp t s)
  | sleep ms next ih => exact ih hp

theorem yields_bind
    {mid : α → Prop} {post : β → Prop} {p : Activity σ α} {k : α → Activity σ β}
    (hp : p.Yields mid) (hk : ∀ a, mid a → (k a).Yields post) :
    (p >>= k).Yields post := by
  induction p with
  | done a => exact hk a hp
  | crash => trivial
  | act update next ih => exact fun t s => ih t s (hp t s)
  | sleep ms next ih => exact ih hp

theorem yields_zoom
    {post : α → Prop} {get : τ → σ} {set : σ → τ → τ} {p : Activity σ α} (hp : p.Yields post) :
    (p.zoom get set).Yields post := by
  induction p with
  | done a => exact hp
  | crash => trivial
  | act update next ih => exact fun t x => ih t (get x) (hp t (get x))
  | sleep ms next ih => exact ih hp

/-- What is in the background has no say in the value. -/
theorem yields_alongside
    {post : α → Prop} {d e : Nat} {p : Activity σ Unit} {q : Activity σ α} (hq : q.Yields post) :
    (alongside d p e q).Yields post := by
  fun_induction alongside d p e q with
  | case1 e q => exact hq
  | case2 e q => exact hq
  | case3 update next e q ih => exact fun t s => ih t s hq
  | case4 ms next e q ih => exact ih hq
  | case5 => exact hq
  | case6 => trivial
  | case7 d p update next ih => exact fun t s => ih t s (hq t s)
  | case8 d p ms next ih => exact ih hq
  | case9 d p e q least ih => exact ih hq

theorem yields_withBackground
    {post : α → Prop} {background : List (Activity σ Unit)} {main : Activity σ α}
    (hmain : main.Yields post) :
    (withBackground background main).Yields post := by
  induction background with
  | nil => exact hmain
  | cons p rest ih => exact yields_alongside ih

theorem Yields.of_run
    {post : α → Prop} {p : Activity σ α} {t t' : Nat} {s s' : σ} {a : α}
    (hp : p.Yields post) (h : p.run t s = (some a, t', s')) :
    post a := by
  induction p generalizing t s with
  | done b =>
      cases h
      exact hp
  | crash => cases h
  | act update next ih => exact ih t s (hp t s) h
  | sleep ms next ih => exact ih hp h

/-- What has only one value is kept by every activity. -/
theorem keeps_unit (p : Activity σ α) :
    p.Keeps fun _ => () := by
  induction p with
  | done a => trivial
  | crash => trivial
  | act update next ih => exact fun t s => ⟨rfl, ih t s⟩
  | sleep ms next ih => exact ih

/-- An activity on a part of the state keeps what only hangs on what it keeps of that part. -/
theorem keeps_zoom
    {get : τ → σ} {set : σ → τ → τ} {inner : σ → δ} {outer : τ → γ}
    {p : Activity σ α} (hp : p.Keeps inner)
    (h : ∀ s x, inner s = inner (get x) → outer (set s x) = outer x) :
    (p.zoom get set).Keeps outer := by
  induction p with
  | done a => trivial
  | crash => trivial
  | act update next ih =>
      intro t x
      obtain ⟨hupdate, hnext⟩ := hp t (get x)
      exact ⟨h _ _ hupdate, ih t (get x) hnext⟩
  | sleep ms next ih => exact ih hp

/-- A step of an activity that keeps something leaves it as it is, and the rest keeps it too. -/
theorem Keeps.step
    {get : σ → γ} {p q : Activity σ α} {t : Nat} {s s' : σ}
    (hp : p.Keeps get) (h : p.step? t s = some (s', q)) :
    get s' = get s ∧ q.Keeps get := by
  cases p with
  | done a => simp [step?] at h
  | crash => simp [step?] at h
  | act update next =>
      obtain ⟨rfl, rfl⟩ : update t s = s' ∧ next t s = q := by
        simpa [step?] using h
      exact hp t s
  | sleep ms next =>
      obtain ⟨rfl, rfl⟩ : s = s' ∧ next = q := by
        simpa [step?] using h
      exact ⟨rfl, hp⟩

/-- A run of an activity and of what it goes on with is one run after the other. -/
theorem run_bind (p : Activity σ α) (k : α → Activity σ β) (t : Nat) (s : σ) :
    (p.bind k).run t s =
      match p.run t s with
      | (some a, t', s') => (k a).run t' s'
      | (none, t', s') => (none, t', s') := by
  induction p generalizing t s with
  | done a => rfl
  | crash => rfl
  | act update next ih => exact ih t s t (update t s)
  | sleep ms next ih => exact ih (t + ms) s

/-- A run that ends with a value has gone through both activities. -/
theorem run_bind_inv
    {p : Activity σ α} {k : α → Activity σ β} {t t' : Nat} {s s' : σ} {b : β}
    (h : (p >>= k).run t s = (some b, t', s')) :
    ∃ a t₁ s₁, p.run t s = (some a, t₁, s₁) ∧ (k a).run t₁ s₁ = (some b, t', s') := by
  rw [bind_eq, run_bind] at h
  rcases hfirst : p.run t s with ⟨x, t₁, s₁⟩
  rw [hfirst] at h
  cases x with
  | none => cases h
  | some a => exact ⟨a, t₁, s₁, rfl, h⟩

/-- A run on a part of the state is a run of that part. -/
theorem run_zoom
    {get : τ → σ} {set : σ → τ → τ}
    (hget : ∀ s x, get (set s x) = s)
    (hset : ∀ x, set (get x) x = x)
    (htwice : ∀ s s' x, set s (set s' x) = set s x)
    (p : Activity σ α) (t : Nat) (x : τ) :
    (p.zoom get set).run t x =
      ((p.run t (get x)).1, (p.run t (get x)).2.1, set (p.run t (get x)).2.2 x) := by
  induction p generalizing t x with
  | done a => simp [zoom, run, hset]
  | crash => simp [zoom, run, hset]
  | act update next ih =>
      simp only [zoom, run]
      rw [ih, hget, htwice]
  | sleep ms next ih =>
      simp only [zoom, run]
      rw [ih]

end Activity

end WalletEvents
