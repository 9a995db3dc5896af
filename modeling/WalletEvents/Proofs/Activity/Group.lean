import WalletEvents.Proofs.Activity.Trace

/-!
# What a group of activities writes

The activities of a group take their steps in turns, each after its own pauses. To each
of them the others of the group are like anybody else who changes the state in between.

**Result.** `Trace.gather_cases`: when a group has ended, each of its activities has
come to its end with entries of its own, and the entries of the group are these, in
some order. A group breaks off only where one of its activities may break off.
-/

namespace WalletEvents

namespace Activity

variable {σ ε α : Type} {log : σ → List ε}

namespace Sleeper

variable {sleepers : List (Sleeper σ α)} {i : Nat} {p : Sleeper σ α}

theorem hasEnded_iff : p.hasEnded = true ↔ ∃ a, p.rest = .done a := by
  unfold hasEnded
  cases p.rest <;> simp

theorem first?_eq_none_iff : first? sleepers = none ↔ sleepers = [] := by
  cases sleepers with
  | nil => simp [first?]
  | cons r others =>
      simp only [first?]
      split
      · simp
      · split <;> simp

/-- The turn comes to an activity that has ended only when all have ended, and to any other one not
before all that wake earlier have ended. -/
theorem first?_le
    (h : first? sleepers = some (i, p)) {q : Sleeper σ α} (hq : q ∈ sleepers) :
    q.hasEnded = true ∨ p.hasEnded = false ∧ p.delay ≤ q.delay := by
  induction sleepers generalizing i p with
  | nil => simp at hq
  | cons r others ih =>
      cases hfirst : first? others with
      | none =>
          obtain rfl := first?_eq_none_iff.mp hfirst
          obtain ⟨-, rfl⟩ : 0 = i ∧ r = p := by simpa [first?] using h
          obtain rfl : q = r := by simpa using hq
          cases hended : q.hasEnded with
          | true => exact .inl rfl
          | false => exact .inr ⟨rfl, Nat.le_refl _⟩
      | some other =>
          obtain ⟨j, o⟩ := other
          simp only [first?, hfirst] at h
          split at h
          · rename_i hbefore
            obtain ⟨-, rfl⟩ : j + 1 = i ∧ o = p := by simpa using h
            rcases List.mem_cons.mp hq with rfl | hq
            · grind [precedes]
            · exact ih hfirst hq
          · rename_i hnot
            obtain ⟨-, rfl⟩ : 0 = i ∧ r = p := by simpa using h
            rcases List.mem_cons.mp hq with rfl | hq
            · cases hended : q.hasEnded with
              | true => exact .inl rfl
              | false => exact .inr ⟨rfl, Nat.le_refl _⟩
            · have hother := ih hfirst hq
              grind [precedes]

end Sleeper

section Steps

variable {t : Nat} {s : σ} {w v : List ε} {update : Nat → σ → σ} {next : Nat → σ → Activity σ α}

theorem writes_done (a : α) (t : Nat) (s : σ) :
    (Activity.done a : Activity σ α).Writes log t [] :=
  ⟨s, t, s, a, .done trivial⟩

/-- An activity writes what it writes in its next step and after that. -/
theorem writes_act
    (hlog : log (update t s) = log s ++ v) (h : (next t s).Writes log t w) :
    (Activity.act update next).Writes log t (v ++ w) := by
  obtain ⟨s₁, t', s', a, htrace⟩ := h
  exact ⟨s, t', s', a, .act trivial hlog (htrace.wait trivial)⟩

theorem mayBreakOff_act
    (hlog : log (update t s) = log s ++ v) (h : (next t s).MayBreakOff log t) :
    (Activity.act update next).MayBreakOff log t := by
  obtain ⟨s₁, w, t', s', htrace⟩ := h
  exact ⟨s, v ++ w, t', s', .act trivial hlog (htrace.wait trivial)⟩

theorem writes_sleep
    {ms : Nat} {next : Activity σ α} (h : next.Writes log (t + ms) w) :
    (Activity.sleep ms next).Writes log t w := by
  obtain ⟨s, t', s', a, htrace⟩ := h
  exact ⟨s, t', s', a, .sleep htrace⟩

theorem mayBreakOff_sleep
    {ms : Nat} {next : Activity σ α} (h : next.MayBreakOff log (t + ms)) :
    (Activity.sleep ms next).MayBreakOff log t := by
  obtain ⟨s, w, t', s', htrace⟩ := h
  exact ⟨s, w, t', s', .sleep htrace⟩

end Steps

/-- The entries that activities which wake after their delays may write all together, if they all come to
their ends; otherwise one of them may break off. -/
def GroupWrites {β : Type} (log : σ → List ε) (t : Nat) (sleepers : List (Sleeper σ α)) (w : List ε) :
    Option β → Prop
  | some _ => ∃ ws, List.Forall₂ (fun p v => p.rest.Writes log (t + p.delay) v) sleepers ws ∧
      w.Perm ws.flatten
  | none => ∃ p ∈ sleepers, p.rest.MayBreakOff log (t + p.delay)

namespace Sleeper

variable {sleepers : List (Sleeper σ α)} {i ms t : Nat} {p q : Sleeper σ α} {w v : List ε}

/-- After a while the others of a group have so much less of their delays before them. -/
theorem writes_delay_sub
    (hdelay : p.hasEnded = true ∨ ms ≤ p.delay)
    (h : p.rest.Writes log (t + ms + (p.delay - ms)) w) :
    p.rest.Writes log (t + p.delay) w := by
  rcases hdelay with hended | hle
  · obtain ⟨a, hdone⟩ := hasEnded_iff.mp hended
    rw [hdone] at h ⊢
    obtain ⟨s, t', s', b, htrace⟩ := h
    obtain ⟨rfl, -, -, -⟩ := htrace.pure_inv
    exact writes_done a _ s
  · rwa [Nat.add_assoc, Nat.add_sub_cancel' hle] at h

theorem mayBreakOff_delay_sub
    (hdelay : p.hasEnded = true ∨ ms ≤ p.delay)
    (h : p.rest.MayBreakOff log (t + ms + (p.delay - ms))) :
    p.rest.MayBreakOff log (t + p.delay) := by
  rcases hdelay with hended | hle
  · obtain ⟨a, hdone⟩ := hasEnded_iff.mp hended
    rw [hdone] at h
    obtain ⟨s, w, t', s', htrace⟩ := h
    obtain ⟨-, -, -, hnone⟩ := htrace.pure_inv
    cases hnone
  · rwa [Nat.add_assoc, Nat.add_sub_cancel' hle] at h

/-- What the activities of a group write when one of them has taken a step, its own entries before the
others. -/
theorem exists_writes_of_replaceAfter
    (hp : sleepers[i]? = some p)
    (hdelay : ∀ r ∈ sleepers, r.hasEnded = true ∨ ms ≤ r.delay)
    (hstep : ∀ u, q.rest.Writes log (t + ms + q.delay) u →
      p.rest.Writes log (t + p.delay) (v ++ u))
    {ws : List (List ε)}
    (h : List.Forall₂ (fun r u => r.rest.Writes log (t + ms + r.delay) u)
      (replaceAfter sleepers ms i q) ws) :
    ∃ ws', List.Forall₂ (fun r u => r.rest.Writes log (t + r.delay) u) sleepers ws' ∧
      (v ++ ws.flatten).Perm ws'.flatten := by
  induction sleepers generalizing i ws with
  | nil => simp at hp
  | cons r others ih =>
      unfold replaceAfter at ih h
      cases i with
      | zero =>
          obtain rfl : r = p := by simpa using hp
          cases h with
          | @cons _ u _ us hq hothers =>
              refine ⟨(v ++ u) :: us, .cons (hstep u hq) ?_, by simp⟩
              rw [List.forall₂_map_left_iff] at hothers
              have hboth := (List.forall₂_and_left others us).mpr
                ⟨fun o ho => hdelay o (by simp [ho]), hothers⟩
              exact hboth.imp fun o u h => writes_delay_sub h.1 h.2
      | succ i =>
          cases h with
          | @cons _ u _ us hr hothers =>
              obtain ⟨us', hus, hperm⟩ :=
                ih (by simpa using hp) (fun o ho => hdelay o (by simp [ho])) hothers
              refine ⟨u :: us', .cons (writes_delay_sub (hdelay r (by simp)) hr) hus, ?_⟩
              exact (List.perm_append_comm_assoc v u us.flatten).trans (hperm.append_left u)

theorem exists_mayBreakOff_of_replaceAfter
    (hp : sleepers[i]? = some p)
    (hdelay : ∀ r ∈ sleepers, r.hasEnded = true ∨ ms ≤ r.delay)
    (hstep : q.rest.MayBreakOff log (t + ms + q.delay) → p.rest.MayBreakOff log (t + p.delay))
    (h : ∃ r ∈ replaceAfter sleepers ms i q, r.rest.MayBreakOff log (t + ms + r.delay)) :
    ∃ r ∈ sleepers, r.rest.MayBreakOff log (t + r.delay) := by
  obtain ⟨r, hr, hbreak⟩ := h
  rcases List.mem_or_eq_of_mem_set hr with hother | rfl
  · obtain ⟨o, ho, rfl⟩ := List.mem_map.mp hother
    exact ⟨o, ho, mayBreakOff_delay_sub (hdelay o ho) hbreak⟩
  · exact ⟨p, List.mem_of_getElem? hp, hstep hbreak⟩

/-- What a group writes when one of its activities takes a step. -/
theorem groupWrites_of_replaceAfter
    {β : Type} {x : Option β} (hp : sleepers[i]? = some p)
    (hdelay : ∀ r ∈ sleepers, r.hasEnded = true ∨ ms ≤ r.delay)
    (hwrites : ∀ u, q.rest.Writes log (t + ms + q.delay) u →
      p.rest.Writes log (t + p.delay) (v ++ u))
    (hbreak : q.rest.MayBreakOff log (t + ms + q.delay) → p.rest.MayBreakOff log (t + p.delay))
    (h : GroupWrites log (t + ms) (replaceAfter sleepers ms i q) w x) :
    GroupWrites log t sleepers (v ++ w) x := by
  cases x with
  | none => exact exists_mayBreakOff_of_replaceAfter hp hdelay hbreak h
  | some values =>
      obtain ⟨ws, hws, hperm⟩ := h
      obtain ⟨ws', hws', hperm'⟩ := exists_writes_of_replaceAfter hp hdelay hwrites hws
      exact ⟨ws', hws', (hperm.append_left v).trans hperm'⟩

end Sleeper

theorem Trace.of_after
    {R : σ → σ → Prop} {ms t t' : Nat} {s s' : σ} {p : Activity σ α} {w : List ε} {x : Option α}
    (h : Trace R log (after ms p) t s w t' s' x) :
    Trace R log p (t + ms) s w t' s' x := by
  unfold after at h
  split at h
  · rename_i hms
    simpa [hms] using h
  · cases h with
    | sleep hrest => exact hrest

theorem groupWrites_gatherFrom
    {R : σ → σ → Prop} {large : Bool} {next t t' : Nat} {sleepers : List (Sleeper σ α)} {s s' : σ}
    {w : List ε} {x : Option (List α)}
    (h : Trace R log (gatherFrom large next sleepers) t s w t' s' x) :
    GroupWrites log t sleepers w x := by
  fun_induction gatherFrom large next sleepers generalizing t s w with
  | case1 next sleepers hfirst =>
      obtain ⟨rfl, -, -, rfl⟩ := h.pure_inv
      obtain rfl := Sleeper.first?_eq_none_iff.mp hfirst
      exact ⟨[], .nil, .refl _⟩
  | case2 next sleepers i p hfirst a hrest =>
      obtain ⟨rfl, -, -, rfl⟩ := h.of_after.pure_inv
      refine ⟨sleepers.map fun _ => [], ?_, by simp⟩
      rw [List.forall₂_map_right_iff, List.forall₂_same]
      intro q hq
      rcases Sleeper.first?_le hfirst hq with hended | ⟨hgoing, -⟩
      · obtain ⟨b, hb⟩ := Sleeper.hasEnded_iff.mp hended
        rw [hb]
        exact writes_done b _ s
      · rw [Sleeper.hasEnded_iff.mpr ⟨a, hrest⟩] at hgoing
        cases hgoing
  | case3 next sleepers i p hfirst hrest =>
      cases h.of_after with
      | crash hwait =>
          refine ⟨p, List.mem_of_getElem? (Sleeper.get?_first? hfirst), ?_⟩
          rw [hrest]
          exact ⟨s, [], _, s, .crash trivial⟩
  | case4 next sleepers i p hfirst update rest hrest ih =>
      cases h.of_after with
      | @act _ _ _ _ _ s₁ _ v _ _ hwait hlog hnext =>
          refine Sleeper.groupWrites_of_replaceAfter (Sleeper.get?_first? hfirst)
            (fun r hr => (Sleeper.first?_le hfirst hr).imp_right And.right) ?_ ?_ (ih _ _ hnext)
          · intro u hu
            rw [hrest]
            exact writes_act hlog hu
          · intro hbreak
            rw [hrest]
            exact mayBreakOff_act hlog hbreak
  | case5 next sleepers i p hfirst ms rest hrest number =>
      rename_i ih
      refine Sleeper.groupWrites_of_replaceAfter (v := []) (Sleeper.get?_first? hfirst)
        (fun r hr => (Sleeper.first?_le hfirst hr).imp_right And.right) ?_ ?_ (ih h.of_after)
      · intro u hu
        rw [hrest]
        exact writes_sleep hu
      · intro hbreak
        rw [hrest]
        exact mayBreakOff_sleep hbreak

/-- All activities of a group come to their ends, or one of them breaks off. -/
theorem Trace.gather_cases
    {R : σ → σ → Prop} {t t' : Nat} {group : List (Activity σ α)} {s s' : σ} {w : List ε}
    {x : Option (List α)} (h : Trace R log (gather group) t s w t' s' x) :
    (∃ values ws, x = some values ∧ List.Forall₂ (fun p v => p.Writes log t v) group ws ∧
      w.Perm ws.flatten) ∨
    (x = none ∧ ∃ p ∈ group, p.MayBreakOff log t) := by
  have hgroup := groupWrites_gatherFrom h
  cases x with
  | none =>
      obtain ⟨p, hp, hbreak⟩ := hgroup
      obtain ⟨i, hi, rfl⟩ := List.mem_mapIdx.mp hp
      exact .inr ⟨rfl, _, List.getElem_mem hi, hbreak⟩
  | some values =>
      obtain ⟨ws, hws, hperm⟩ := hgroup
      refine .inl ⟨values, ws, rfl, ?_, hperm⟩
      rw [List.forall₂_iff_get] at hws ⊢
      obtain ⟨hlength, hws⟩ := hws
      refine ⟨by simpa using hlength, fun i hi hi' => ?_⟩
      simpa using hws i (by simpa using hi) hi'

theorem returns_after {ms : Nat} {p : Activity σ α} (hp : p.Returns) :
    (after ms p).Returns := by
  unfold after
  split
  · exact hp
  · exact hp

theorem returns_gatherFrom
    {large : Bool} {next : Nat} {sleepers : List (Sleeper σ α)}
    (h : ∀ p ∈ sleepers, p.rest.Returns) :
    (gatherFrom large next sleepers).Returns := by
  have rest_of_first {sleepers : List (Sleeper σ α)} {i : Nat} {p : Sleeper σ α}
      (hfirst : Sleeper.first? sleepers = some (i, p)) (h : ∀ p ∈ sleepers, p.rest.Returns) :
      p.rest.Returns :=
    h p (List.mem_of_getElem? (Sleeper.get?_first? hfirst))
  fun_induction gatherFrom large next sleepers with
  | case1 => trivial
  | case2 => exact returns_after trivial
  | case3 next sleepers i p hfirst hrest =>
      have hp := rest_of_first hfirst h
      rw [hrest] at hp
      exact hp.elim
  | case4 next sleepers i p hfirst update rest hrest ih =>
      have hp := rest_of_first hfirst h
      rw [hrest] at hp
      exact returns_after fun t s => ih t s (Sleeper.forall_replaceAfter h (hp t s))
  | case5 next sleepers i p hfirst ms rest hrest number ih =>
      have hp := rest_of_first hfirst h
      rw [hrest] at hp
      exact returns_after (ih (Sleeper.forall_replaceAfter h hp))

/-- A group whose activities come to their ends comes to its end. -/
theorem returns_gather {group : List (Activity σ α)} (h : ∀ p ∈ group, p.Returns) :
    (gather group).Returns := by
  refine returns_gatherFrom fun p hp => ?_
  obtain ⟨i, hi, rfl⟩ := List.mem_mapIdx.mp hp
  exact h _ (List.getElem_mem hi)

end Activity

end WalletEvents
