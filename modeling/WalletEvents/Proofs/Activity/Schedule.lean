import WalletEvents.Proofs.Activity.Group

/-!
# Schedules of a group

A schedule of a group of activities says whose turn it is. It has one of them take a step
or lets time pass, as often as it likes, and it resumes an activity that pauses whenever it
likes. It may look at the time and the state for that. It ends when all activities have
ended, and breaks off when one of them has broken off.

**Results.**

* `Activity.schedule_gather`: the concurrent run of a group, where each activity goes on when
  its pause is over, follows a schedule.
* `Schedule.exists_run`: if each activity of a group comes to its end with a fixed value and
  fixed entries in a log whatever happens to the state (`Activity.Settles`), then every
  schedule comes to its end with these values, and it interleaves the entries of the
  activities (`Interleaving`).
-/

namespace WalletEvents

namespace Activity

variable {σ ε α β : Type}

/-- The activity runs the group by some schedule, up to where all have ended. -/
inductive Schedule : List (Activity σ α) → Activity σ (List α) → Prop
  | ended (values : List α) :
      Schedule (values.map .done) (.done values)
  | broken
      {group : List (Activity σ α)} (hbroken : .crash ∈ group) :
      Schedule group .crash
  | act
      {before after : List (Activity σ α)} {update : Nat → σ → σ}
      {next : Nat → σ → Activity σ α} {rest : Nat → σ → Activity σ (List α)}
      (hrest : ∀ t s, Schedule (before ++ next t s :: after) (rest t s)) :
      Schedule (before ++ .act update next :: after) (.act update rest)
  | resume
      {before after : List (Activity σ α)} {ms : Nat} {next : Activity σ α}
      {p : Activity σ (List α)} (hrest : Schedule (before ++ next :: after) p) :
      Schedule (before ++ .sleep ms next :: after) p
  | wait
      {group : List (Activity σ α)} {ms : Nat} {p : Activity σ (List α)}
      (hrest : Schedule group p) :
      Schedule group (.sleep ms p)

theorem schedule_after
    {group : List (Activity σ α)} {p : Activity σ (List α)} (ms : Nat) (h : Schedule group p) :
    Schedule group (after ms p) := by
  unfold after
  split
  · exact h
  · exact .wait h

namespace Sleeper

variable {sleepers : List (Sleeper σ α)} {i : Nat} {p : Sleeper σ α}

/-- When all have ended, the values are those that they have ended with. -/
theorem map_rest_eq_values (h : ∀ q ∈ sleepers, q.hasEnded = true) :
    sleepers.map rest = (values sleepers).map .done := by
  induction sleepers with
  | nil => rfl
  | cons q others ih =>
      obtain ⟨a, ha⟩ := hasEnded_iff.mp (h q (by simp))
      rw [List.map_cons, ih fun r hr => h r (by simp [hr]), ha]
      simp [values, ha]

/-- The place of an activity in its group, and the group with another one there. -/
theorem exists_map_rest
    (h : sleepers[i]? = some p) (ms : Nat) :
    ∃ before after, sleepers.map rest = before ++ p.rest :: after ∧
      ∀ q, (replaceAfter sleepers ms i q).map rest = before ++ q.rest :: after := by
  have hplace : i < (sleepers.map rest).length := by
    simpa using (List.getElem?_eq_some_iff.mp h).1
  have hget : (sleepers.map rest)[i] = p.rest := by
    simp [(List.getElem?_eq_some_iff.mp h).2]
  refine ⟨(sleepers.map rest).take i, (sleepers.map rest).drop (i + 1), ?_, fun q => ?_⟩
  · rw [← hget, List.getElem_cons_drop, List.take_append_drop]
  · have hrest : (replaceAfter sleepers ms i q).map rest = (sleepers.map rest).set i q.rest := by
      simp [replaceAfter, List.map_set, Function.comp_def]
    rw [hrest, List.set_eq_take_append_cons_drop, if_pos hplace]

end Sleeper

theorem schedule_gatherFrom (large : Bool) (next : Nat) (sleepers : List (Sleeper σ α)) :
    Schedule (sleepers.map Sleeper.rest) (gatherFrom large next sleepers) := by
  fun_induction gatherFrom large next sleepers with
  | case1 next sleepers hfirst =>
      obtain rfl := Sleeper.first?_eq_none_iff.mp hfirst
      exact .ended []
  | case2 next sleepers i p hfirst a hrest =>
      rw [Sleeper.map_rest_eq_values fun q hq => ?_]
      · exact schedule_after _ (.ended _)
      · rcases Sleeper.first?_le hfirst hq with hended | ⟨hgoing, -⟩
        · exact hended
        · rw [Sleeper.hasEnded_iff.mpr ⟨a, hrest⟩] at hgoing
          cases hgoing
  | case3 next sleepers i p hfirst hrest =>
      refine schedule_after _ (.broken ?_)
      rw [← hrest]
      exact List.mem_map_of_mem (List.mem_of_getElem? (Sleeper.get?_first? hfirst))
  | case4 next sleepers i p hfirst update rest hrest ih =>
      obtain ⟨before, after, hgroup, hnext⟩ :=
        Sleeper.exists_map_rest (Sleeper.get?_first? hfirst) p.delay
      rw [hgroup, hrest]
      exact schedule_after _ (.act fun t s => hnext ⟨p.number, 0, rest t s⟩ ▸ ih t s)
  | case5 next sleepers i p hfirst ms rest hrest number ih =>
      obtain ⟨before, after, hgroup, hnext⟩ :=
        Sleeper.exists_map_rest (Sleeper.get?_first? hfirst) p.delay
      rw [hgroup, hrest]
      exact schedule_after _ (.resume (hnext ⟨number, ms, rest⟩ ▸ ih))

/-- A group that runs concurrently follows a schedule. -/
theorem schedule_gather (group : List (Activity σ α)) :
    Schedule group (gather group) := by
  have hgroup : (group.mapIdx fun i p => (⟨i, 0, p⟩ : Sleeper σ α)).map Sleeper.rest = group := by
    refine List.ext_getElem? fun i => ?_
    simp [Function.comp_def]
  have h := schedule_gatherFrom (largestSmallGroup < group.length) group.length
    (group.mapIdx fun i p => ⟨i, 0, p⟩)
  rwa [hgroup] at h

/-- Whatever happens to the state between its steps, the activity comes to its end with the value, and on
its way it appends the entries to the log. -/
def Settles (log : σ → List ε) (a : α) : Activity σ α → List ε → Prop
  | .done b, w => b = a ∧ w = []
  | .crash, _ => False
  | .act update next, w => ∀ t s, ∃ v u, w = v ++ u ∧ log (update t s) = log s ++ v ∧
      (next t s).Settles log a u
  | .sleep _ next, w => next.Settles log a w

section Settles

variable {log : σ → List ε} {p : Activity σ α} {a : α} {w v : List ε}

theorem settles_pure (a : α) :
    (pure a : Activity σ α).Settles log a [] := ⟨rfl, rfl⟩

theorem settles_bind
    {k : α → Activity σ β} {b : β} (hp : p.Settles log a w) (hk : (k a).Settles log b v) :
    (p >>= k).Settles log b (w ++ v) := by
  induction p generalizing w with
  | done c =>
      obtain ⟨rfl, rfl⟩ := hp
      exact hk
  | crash => exact hp.elim
  | act update next ih =>
      intro t s
      obtain ⟨u, u', rfl, hlog, hnext⟩ := hp t s
      exact ⟨u, u' ++ v, List.append_assoc .., hlog, ih t s hnext⟩
  | sleep ms next ih => exact ih hp

/-- The outcome of an activity that always has the same one. -/
theorem settles_of_yields
    (hreturns : p.Returns) (hyields : p.Yields (· = a)) (hsilent : p.Only (Unchanged log)) :
    p.Settles log a [] := by
  induction p with
  | done b => exact ⟨hyields, rfl⟩
  | crash => exact hreturns.elim
  | act update next ih =>
      intro t s
      obtain ⟨hlog, hnext⟩ := hsilent t s
      exact ⟨[], [], rfl, hlog.trans (List.append_nil _).symm,
        ih t s (hreturns t s) (hyields t s) hnext⟩
  | sleep ms next ih => exact ih hreturns hyields hsilent

/-- The run of such an activity by itself. -/
theorem Settles.exists_run (h : p.Settles log a w) (t : Nat) (s : σ) :
    ∃ t' s', p.run t s = (some a, t', s') ∧ log s' = log s ++ w := by
  induction p generalizing w t s with
  | done b =>
      obtain ⟨rfl, rfl⟩ := h
      exact ⟨t, s, rfl, (List.append_nil _).symm⟩
  | crash => exact h.elim
  | act update next ih =>
      obtain ⟨v, u, rfl, hlog, hnext⟩ := h t s
      obtain ⟨t', s', hrun, hlog'⟩ := ih t s hnext t (update t s)
      exact ⟨t', s', hrun, by rw [hlog', hlog, List.append_assoc]⟩
  | sleep ms next ih => exact ih h (t + ms) s

end Settles

/-- The outcomes of a group, with that of one activity apart. -/
theorem exists_of_forall₂_append_cons
    {γ δ : Type} {R : γ → δ → Prop} {before after : List γ} {x : γ} {ys : List δ}
    (h : List.Forall₂ R (before ++ x :: after) ys) :
    ∃ before' y after', ys = before' ++ y :: after' ∧ R x y ∧
      ∀ x' y', R x' y' → List.Forall₂ R (before ++ x' :: after) (before' ++ y' :: after') := by
  induction before generalizing ys with
  | nil =>
      cases h with
      | cons hx hafter => exact ⟨[], _, _, rfl, hx, fun _ _ hx' => .cons hx' hafter⟩
  | cons z before ih =>
      cases h with
      | @cons _ y _ ys hz hrest =>
          obtain ⟨before', y', after', rfl, hx, hreplace⟩ := ih hrest
          exact ⟨y :: before', y', after', rfl, hx, fun _ _ hx' => .cons hz (hreplace _ _ hx')⟩

/-- The list has the entries of each of the lists once and in their order, and no others. -/
inductive Interleaving : List (List ε) → List ε → Prop
  | ended {parts : List (List ε)} (hparts : ∀ part ∈ parts, part = []) :
      Interleaving parts []
  | next
      {before after : List (List ε)} {first : ε} {part rest : List ε}
      (hrest : Interleaving (before ++ part :: after) rest) :
      Interleaving (before ++ (first :: part) :: after) (first :: rest)

theorem Interleaving.append
    {before after : List (List ε)} {part rest : List ε} (v : List ε)
    (h : Interleaving (before ++ part :: after) rest) :
    Interleaving (before ++ (v ++ part) :: after) (v ++ rest) := by
  induction v with
  | nil => exact h
  | cons first v ih => exact .next ih

/-- A schedule of activities with fixed outcomes comes to its end, and the outcomes are theirs. -/
theorem Schedule.exists_run
    {log : σ → List ε} {group : List (Activity σ α)} {p : Activity σ (List α)}
    (h : Schedule group p) {ends : List (α × List ε)}
    (hends : List.Forall₂ (fun q last => q.Settles log last.1 last.2) group ends)
    (t : Nat) (s : σ) :
    ∃ t' s' w, p.run t s = (some (ends.map Prod.fst), t', s') ∧ log s' = log s ++ w ∧
      Interleaving (ends.map Prod.snd) w := by
  induction h generalizing ends t s with
  | ended values =>
      have hdone : ends.map Prod.fst = values ∧ ∀ part ∈ ends.map Prod.snd, part = [] := by
        rw [List.forall₂_map_left_iff] at hends
        induction hends with
        | nil => simp
        | cons hfirst _ ih =>
            obtain ⟨rfl, hnil⟩ := hfirst
            simpa [ih.1, hnil] using ih.2
      exact ⟨t, s, [], by rw [hdone.1]; rfl, (List.append_nil _).symm, .ended hdone.2⟩
  | broken hbroken =>
      obtain ⟨before, after, rfl⟩ := List.append_of_mem hbroken
      obtain ⟨_, _, _, -, hcrash, -⟩ := exists_of_forall₂_append_cons hends
      exact hcrash.elim
  | @act before after update next rest _ ih =>
      obtain ⟨before', ⟨a, w⟩, after', rfl, hact, hreplace⟩ := exists_of_forall₂_append_cons hends
      obtain ⟨v, u, rfl, hlog, hnext⟩ := hact t s
      obtain ⟨t', s', w', hrun, hlog', hentries⟩ :=
        ih t s (hreplace (next t s) (a, u) hnext) t (update t s)
      refine ⟨t', s', v ++ w', by simpa [run] using hrun, ?_, ?_⟩
      · rw [hlog', hlog, List.append_assoc]
      · simp only [List.map_append, List.map_cons] at hentries ⊢
        exact hentries.append v
  | @resume before after ms next p _ ih =>
      obtain ⟨before', last, after', rfl, hsleep, hreplace⟩ := exists_of_forall₂_append_cons hends
      exact ih (hreplace next last hsleep) t s
  | @wait group ms p _ ih => exact ih hends (t + ms) s

end Activity

end WalletEvents
