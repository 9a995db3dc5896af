import WalletEvents.Proofs.Executor.Chronicle

/-!
# Calls of an executor that keeps a journal

What the parts of an executor put into its journal. The installations of the plugins
run beside everything else, so the entries of all other parts are looked at without
theirs: `Shared.outside` is this part of the journal.

**Results.**

* `Executor.pollsOnly_chronicled`: polling only calls the history and handlers.
* `Executor.balanced_of_tick`: when a tick has come to its end, each call that it has
  made has come to its end too.
* `Executor.balanced_of_tickBreaksOff`: the same holds when a tick breaks off though
  none of its calls does.
-/

namespace WalletEvents

variable {ω α : Type}

namespace Entry

/-- A call of the history or of a handler. -/
def isCall : Entry → Bool
  | .began .history | .began .handler | .ended .history | .ended .handler => true
  | _ => false

/-- The beginning or the end of something that is called. -/
def isOfTask : Entry → Bool
  | .began _ | .ended _ => true
  | _ => false

/-- Something about the installation of a plugin. -/
def isInstall : Entry → Bool
  | .asleep _ _ | .installed _ => true
  | _ => false

/-- Something about the installation of the plugin at a place. -/
def isInstallOf (place : Nat) : Entry → Bool
  | .asleep other _ | .installed other => other = place
  | _ => false

theorem isInstall_of_isInstallOf {place : Nat} {entry : Entry} (h : entry.isInstallOf place = true) :
    entry.isInstall = true := by
  cases entry <;> simp_all [isInstallOf, isInstall]

theorem isOfTask_of_isCall {entry : Entry} (h : entry.isCall = true) :
    entry.isOfTask = true := by
  cases entry <;> simp_all [isCall, isOfTask]

theorem not_isInstallOf_of_isOfTask {place : Nat} {entry : Entry} (h : entry.isOfTask = true) :
    entry.isInstallOf place = false := by
  cases entry <;> simp_all [isInstallOf, isOfTask]

end Entry

/-- The journal without what the installations of the plugins have put down. -/
def Shared.outside (s : Shared (Chronicled ω)) : List Entry :=
  s.journal.filter fun entry => !entry.isInstall

theorem Records.outside
    {C : Entry → Prop} {s s' : Shared (Chronicled ω)} (h : Records C s s') :
    ∃ w, s'.outside = s.outside ++ w ∧ ∀ entry ∈ w, C entry := by
  obtain ⟨w, hw, hC⟩ := h.journal
  refine ⟨w.filter fun entry => !entry.isInstall, ?_, ?_⟩
  · rw [Shared.outside, hw, List.filter_append]
    rfl
  · intro entry hentry
    exact hC entry (List.mem_of_mem_filter hentry)

/-- An installation does not show outside. -/
theorem Records.unchanged_outside
    {C : Entry → Prop} {s s' : Shared (Chronicled ω)} (h : Records C s s')
    (hC : ∀ entry, C entry → entry.isInstall = true) :
    Activity.Unchanged Shared.outside s s' := by
  obtain ⟨w, hw, hentries⟩ := h.journal
  have hnone : w.filter (fun entry => !entry.isInstall) = [] := by
    rw [List.filter_eq_nil_iff]
    intro entry hentry
    simp [hC entry (hentries entry hentry)]
  rw [Activity.Unchanged, Shared.outside, hw, List.filter_append, hnone, List.append_nil]
  rfl

namespace Activity

variable {R : Shared (Chronicled ω) → Shared (Chronicled ω) → Prop}
variable {t t' : Nat} {s s' : Shared (Chronicled ω)} {w : List Entry}

theorem silent_outside_aside (p : Activity (Shared ω) α) :
    p.aside.Only (Unchanged Shared.outside) :=
  only_zoom (only_true p) fun _ _ _ => rfl

theorem returns_note (entry : Entry) :
    (note entry : Activity (Shared (Chronicled ω)) Unit).Returns := returns_modify _

theorem returns_recorded {task : Task} {p : Activity (Shared ω) α} (hp : p.Returns) :
    (p.recorded task).Returns :=
  returns_bind (returns_note _) fun _ =>
    returns_bind (returns_zoom hp) fun _ => returns_bind (returns_note _) fun _ => trivial

/-- An entry that is put down shows outside. -/
theorem Trace.of_note
    {entry : Entry} (hentry : entry.isInstall = false) {x : Option Unit}
    (h : Trace R Shared.outside (note entry) t s w t' s' x) :
    w = [entry] ∧ t' = t ∧ x = some () := by
  obtain ⟨s₁, -, hlog, rfl, -, rfl⟩ := h.modify_inv
  refine ⟨?_, rfl, rfl⟩
  have hfilter : (s₁.enter entry).outside = s₁.outside ++ [entry] := by
    simp [Shared.outside, Shared.enter, Shared.journal, hentry]
  exact (List.append_cancel_left (hfilter.symm.trans hlog)).symm

variable [IsPreorder (Shared (Chronicled ω)) R]

/-- What a call puts down when it comes to its end. -/
theorem Trace.of_recorded
    {task : Task} {p : Activity (Shared ω) α} {a : α}
    (h : Trace R Shared.outside (p.recorded task) t s w t' s' (some a)) :
    w = [.began task, .ended task] := by
  obtain ⟨_, _, _, _, _, rfl, hbegan, hrest⟩ := h.bind_inv
  obtain ⟨_, _, _, _, _, rfl, haside, hrest⟩ := hrest.bind_inv
  obtain ⟨_, _, _, _, _, rfl, hended, hlast⟩ := hrest.bind_inv
  obtain ⟨rfl, -, -⟩ := hbegan.of_note rfl
  obtain rfl := haside.eq_nil_of_only (silent_outside_aside p)
  obtain ⟨rfl, -, -⟩ := hended.of_note rfl
  obtain ⟨rfl, -, -, -⟩ := hlast.pure_inv
  rfl

end Activity

/-- Every call that has begun has ended. -/
def Balanced (w : List Entry) : Prop := ∀ task, w.count (.began task) = w.count (.ended task)

theorem balanced_nil : Balanced [] := fun _ => rfl

theorem Balanced.append {w v : List Entry} (hw : Balanced w) (hv : Balanced v) :
    Balanced (w ++ v) := by
  intro task
  rw [List.count_append, List.count_append, hw task, hv task]

theorem Balanced.perm {w v : List Entry} (hw : Balanced w) (h : v.Perm w) :
    Balanced v := by
  intro task
  rw [h.count_eq, h.count_eq, hw task]

theorem balanced_flatten {ws : List (List Entry)} (h : ∀ w ∈ ws, Balanced w) :
    Balanced ws.flatten := by
  induction ws with
  | nil => exact balanced_nil
  | cons w ws ih => exact (h w (by simp)).append (ih fun v hv => h v (by simp [hv]))

theorem balanced_task (task : Task) :
    Balanced [.began task, .ended task] := by
  intro other
  by_cases h : task = other <;> simp [h]

section Dispatching

open Activity

variable {R : Shared (Chronicled ω) → Shared (Chronicled ω) → Prop}
variable {t t' : Nat} {s s' : Shared (Chronicled ω)} {w : List Entry}

/-- Entries about calls of the history and of handlers. -/
abbrev RecordsCalls : Shared (Chronicled ω) → Shared (Chronicled ω) → Prop :=
  Records fun entry => entry.isCall = true

theorem only_checkAll_chronicled (r : Registration (Activity (Shared ω))) (e : Event) :
    (Filter.checkAll (fun ask : Event → Activity _ Bool => ask e) r.chronicled.filters).Only RecordsCalls := by
  refine only_bind (only_aside _) fun holds => ?_
  cases holds with
  | true => exact only_pure true
  | false => exact only_pure false

theorem Registration.doesOnly_chronicled (r : Registration (Activity (Shared ω))) :
    r.chronicled.DoesOnly RecordsCalls :=
  fun e => ⟨only_checkAll_chronicled r e,
    only_recorded (C := fun entry => entry.isCall = true) rfl rfl _⟩

theorem silent_checkAll_chronicled (r : Registration (Activity (Shared ω))) (e : Event) :
    (Filter.checkAll (fun ask : Event → Activity _ Bool => ask e) r.chronicled.filters).Only (Unchanged Shared.outside) := by
  refine only_bind (silent_outside_aside _) fun holds => ?_
  cases holds with
  | true => exact only_pure true
  | false => exact only_pure false

variable [IsPreorder (Shared (Chronicled ω)) R]

theorem balanced_of_walk
    {stop handled : Bool} {e : Event} {rs : List (Registration (Activity (Shared ω)))}
    {result : Except HandlerFault Bool}
    (h : Trace R Shared.outside (walk stop e handled (rs.map Registration.chronicled)) t s w t' s'
      (some result)) :
    Balanced w := by
  induction rs generalizing handled t s w with
  | nil =>
      obtain ⟨rfl, -, -, -⟩ := h.pure_inv
      exact balanced_nil
  | cons r rest ih =>
      obtain ⟨holds, _, _, _, _, rfl, hcheck, h⟩ := h.bind_inv
      obtain rfl := hcheck.eq_nil_of_only (silent_checkAll_chronicled r e)
      cases holds with
      | false => exact ih h
      | true =>
          obtain ⟨result, _, _, _, _, rfl, hcall, hrest⟩ := h.bind_inv
          obtain rfl := hcall.of_recorded
          refine (balanced_task .handler).append ?_
          cases result with
          | handled =>
              cases stop with
              | true =>
                  obtain ⟨rfl, -, -, -⟩ := hrest.pure_inv
                  exact balanced_nil
              | false => exact ih hrest
          | skip => exact ih hrest
          | cancel =>
              obtain ⟨rfl, -, -, -⟩ := hrest.pure_inv
              exact balanced_nil
          | failed fault =>
              obtain ⟨rfl, -, -, -⟩ := hrest.pure_inv
              exact balanced_nil

namespace Dispatcher

theorem chain_chronicled (d : Dispatcher (Activity (Shared ω))) (kind : EventKind) :
    d.chronicled.chain kind = (d.chain kind).chronicled := by
  cases kind <;> rfl

theorem AlwaysReturns.chronicled {d : Dispatcher (Activity (Shared ω))} (h : d.AlwaysReturns) :
    d.chronicled.AlwaysReturns := by
  intro kind recorded hrecorded e
  rw [chain_chronicled] at hrecorded
  obtain ⟨r, hr, rfl⟩ := List.mem_map.mp hrecorded
  obtain ⟨hfilters, hhandler⟩ := h kind r hr e
  refine ⟨returns_bind (returns_zoom hfilters) fun holds => ?_, returns_recorded hhandler⟩
  cases holds with
  | true => trivial
  | false => trivial

theorem doesOnly_chronicled (d : Dispatcher (Activity (Shared ω))) :
    d.chronicled.DoesOnly RecordsCalls := by
  intro kind r hr
  rw [chain_chronicled] at hr
  obtain ⟨r, -, rfl⟩ := List.mem_map.mp hr
  exact r.doesOnly_chronicled

theorem balanced_of_processEvent
    {d : Dispatcher (Activity (Shared ω))} {e : Event} {result : Except DispatchError Unit}
    (h : Trace R Shared.outside (d.chronicled.processEvent e) t s w t' s' (some result)) :
    Balanced w := by
  rw [processEvent, chain_chronicled] at h
  obtain ⟨first, _, _, _, _, rfl, hfirst, h⟩ := h.bind_inv
  refine (balanced_of_walk hfirst).append ?_
  cases first with
  | ok _ =>
      obtain ⟨rfl, -, -, -⟩ := h.pure_inv
      exact balanced_nil
  | error fault =>
      dsimp only at h
      split at h
      · obtain ⟨rfl, -, -, -⟩ := h.pure_inv
        exact balanced_nil
      · obtain ⟨second, _, _, _, _, rfl, hsecond, h⟩ := h.bind_inv
        refine (balanced_of_walk hsecond).append ?_
        have hlast : ∀ {result' : Except DispatchError Unit} {v : List Entry} {t₁ s₁},
            Trace R Shared.outside (pure result' : Activity _ _) t₁ s₁ v t' s' (some result) →
              Balanced v := by
          intro result' v t₁ s₁ hv
          obtain ⟨rfl, -, -, -⟩ := hv.pure_inv
          exact balanced_nil
        rcases second with again | handled
        · exact hlast h
        · cases handled with
          | true => exact hlast h
          | false => exact hlast h

/-- A batch that has come to its end has ended all its calls. -/
theorem balanced_of_feedEvents
    {d : Dispatcher (Activity (Shared ω))} {events : List Event} {result : Except DispatchError Unit}
    (h : Trace R Shared.outside (d.chronicled.feedEvents events) t s w t' s' (some result)) :
    Balanced w := by
  obtain ⟨_, _, _, _, _, rfl, hgather, hlast⟩ := h.bind_inv
  obtain ⟨rfl, -, -, -⟩ := hlast.pure_inv
  rcases hgather.gather_cases with ⟨_, ws, -, hws, hperm⟩ | ⟨hnone, -⟩
  · rw [List.append_nil]
    refine (balanced_flatten fun v hv => ?_).perm hperm
    obtain ⟨i, hi, rfl⟩ := List.mem_iff_getElem.mp hv
    obtain ⟨hlength, hget⟩ := List.forall₂_iff_get.mp hws
    obtain ⟨_, _, _, result, hevent⟩ := hget i (by omega) hi
    rw [List.get_eq_getElem, List.getElem_map] at hevent
    exact balanced_of_processEvent hevent
  · cases hnone

end Dispatcher

end Dispatching

namespace Executor

open Activity

variable {R : Shared (Chronicled ω) → Shared (Chronicled ω) → Prop}
variable {t t' : Nat} {s s' : Shared (Chronicled ω)} {w : List Entry}
variable {e : Executor ω} {config : PollingConfig} {clock : Nat → Instant}

theorem pollsOnly_chronicled (e : Executor ω) :
    e.chronicled.PollsOnly RecordsCalls where
  history _ := only_recorded (C := fun entry => entry.isCall = true) rfl rfl _
  dispatcher := e.dispatcher.doesOnly_chronicled

variable [IsPreorder (Shared (Chronicled ω)) R]

/-- A tick that has come to its end has ended all its calls. -/
theorem balanced_of_tick
    {st : PollState} {result : Except Failure TickReport × PollState}
    (h : Trace R Shared.outside ((e.chronicled.poller config clock).tick st) t s w t' s' (some result)) :
    Balanced w := by
  have hsilent : (e.chronicled.poller config clock).now.Only (Unchanged Shared.outside) :=
    only_modifyGet fun _ _ => rfl
  obtain ⟨now, t₁, s₁, -, h⟩ := Trace.bind_silent (returns_modifyGet _) hsilent h
  obtain ⟨answer, _, _, _, _, rfl, hcall, h⟩ := h.bind_inv
  obtain rfl := hcall.of_recorded
  refine (balanced_task .history).append ?_
  cases answer with
  | error failure =>
      obtain ⟨rfl, -, -, -⟩ := h.pure_inv
      exact balanced_nil
  | ok page =>
      dsimp only at h
      split at h
      · cases h
      · obtain ⟨_, _, _, _, _, rfl, hfeed, hlast⟩ := h.bind_inv
        obtain ⟨rfl, -, -, -⟩ := hlast.pure_inv
        exact (Dispatcher.balanced_of_feedEvents hfeed).append balanced_nil

/-- Where neither the history nor a filter nor a handler breaks off, a tick only breaks off while no call is
on its way. -/
theorem balanced_of_tickBreaksOff
    {st : PollState} (hhistory : ∀ query, (e.service.history query).Returns)
    (hdispatcher : e.dispatcher.AlwaysReturns)
    (h : (e.chronicled.poller config clock).TickBreaksOff Shared.outside st w) :
    Balanced w := by
  obtain ⟨t, s, t', s', h⟩ := h
  have hsilent : (e.chronicled.poller config clock).now.Only (Unchanged Shared.outside) :=
    only_modifyGet fun _ _ => rfl
  obtain ⟨now, t₁, s₁, -, h⟩ := Trace.bind_silent (returns_modifyGet _) hsilent h
  obtain ⟨answer, _, _, _, _, rfl, hcall, h⟩ := h.bind_returns (returns_recorded (hhistory _))
  obtain rfl := hcall.of_recorded
  refine (balanced_task .history).append ?_
  cases answer with
  | error failure =>
      obtain ⟨-, -, -, hnone⟩ := h.pure_inv
      cases hnone
  | ok page =>
      dsimp only at h
      split at h
      · cases h
        exact balanced_nil
      · obtain ⟨_, _, _, _, _, -, -, hlast⟩ := h.bind_returns (hdispatcher.chronicled.feedEvents _)
        obtain ⟨-, -, -, hnone⟩ := hlast.pure_inv
        cases hnone

/-- Ticks that have all come to their ends have ended all their calls. -/
theorem balanced_of_ticks
    {n : Nat} {st st' : PollState}
    (h : (e.chronicled.poller config clock).Ticks Shared.outside n st w st') :
    Balanced w := by
  induction h with
  | none st => exact balanced_nil
  | next hfirst _ ih =>
      obtain ⟨_, _, _, _, _, htick⟩ := hfirst
      exact (balanced_of_tick htick).append ih

end Executor

end WalletEvents
