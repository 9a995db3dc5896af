import WalletEvents.Proofs.Shutdown.Family

/-!
# What the channel knows of its users

Between the moves a channel and its users fit together (`Shutdown.Sound`): there
are as many senders as handles alive, only that the signal was raised is ever
news, and a watcher that checks after the signal was raised has that news. So a
watcher sleeps only as long as there is something to wait for: no wake-up is
lost between looking at the flag and going to sleep.

From this, `Shutdown.Sound.released_iff` reads the release off the channel,
a wait ends only after it, and what is released stays released.
-/

namespace WalletEvents

namespace Shutdown

variable {κ : Type} {channel : WatchChannel κ} {f g f' : Family κ} {m : Move} {a : Answer}
variable {w v : Nat} {later : List (Move × Answer)}

/-- The channel fits its users. -/
structure Sound (channel : WatchChannel κ) (f : Family κ) : Prop where
  senders : channel.senders f.channel = f.handles.count true
  /-- Only that the signal was raised is ever news. -/
  raised_of_news : ∀ w < f.watchers.length,
    channel.news f.channel w = true → channel.flag f.channel = true
  /-- A watcher that has found the flag down gets to know when it goes up. -/
  news_of_raised : ∀ w, f.Checks w →
    channel.flag f.channel = true → channel.news f.channel w = true
  /-- A watcher only sleeps as long as there is something to wait for. -/
  unreleased_of_sleeps : ∀ w, f.Sleeps channel w →
    channel.flag f.channel = false ∧ channel.senders f.channel ≠ 0

theorem sound_start : Sound channel (Family.start channel) where
  senders := channel.senders_new
  raised_of_news := by simp [Family.start]
  news_of_raised := by simp [Family.start, Family.Checks]
  unreleased_of_sleeps := by simp [Family.start, Family.Sleeps, Family.Checks]

theorem Family.Checks.lt_length (h : f.Checks w) : w < f.watchers.length :=
  (List.getElem?_eq_some_iff.mp h).1

theorem Family.checks_setPhase {phase : Phase} :
    (f.setPhase w phase).Checks v → v = w ∧ phase = .checking ∨ v ≠ w ∧ f.Checks v := by
  unfold Checks setPhase
  rw [List.getElem?_set]
  grind

theorem Family.checks_addWatcher {phase : Phase} (hphase : phase ≠ .checking) :
    (f.addWatcher phase).Checks v → f.Checks v := by
  unfold Checks addWatcher
  rw [List.getElem?_append]
  grind

namespace Sound

/-- A watcher may go anywhere but to checking. -/
theorem setPhase (h : Sound channel f) {phase : Phase} (hphase : phase ≠ .checking) (w : Nat) :
    Sound channel (f.setPhase w phase) := by
  have hold : ∀ v, (f.setPhase w phase).Checks v → f.Checks v := by
    intro v hv
    rcases Family.checks_setPhase hv with ⟨-, hchecking⟩ | ⟨-, hv⟩
    · exact absurd hchecking hphase
    · exact hv
  constructor
  · exact h.senders
  · intro v hv
    exact h.raised_of_news v (by simpa [Family.setPhase] using hv)
  · exact fun v hv => h.news_of_raised v (hold v hv)
  · exact fun v hv => h.unreleased_of_sleeps v ⟨hold v hv.1, hv.2⟩

/-- It goes to checking when it is awake and the flag is down. -/
theorem check (h : Sound channel f) (hflag : channel.flag f.channel = false)
    (hawake : channel.asleep f.channel w = false) :
    Sound channel (f.setPhase w .checking) := by
  constructor
  · exact h.senders
  · intro v hv
    exact h.raised_of_news v (by simpa [Family.setPhase] using hv)
  · intro v hv hraised
    exact absurd (hflag.symm.trans hraised) (by decide)
  · rintro v ⟨hv, hasleep⟩
    rcases Family.checks_setPhase hv with ⟨rfl, -⟩ | ⟨-, hv⟩
    · exact absurd (hawake.symm.trans hasleep) (by decide)
    · exact h.unreleased_of_sleeps v ⟨hv, hasleep⟩

/-- A new watcher brings no news of its own. -/
theorem addWatcher
    (h : Sound channel f) {phase : Phase} (hphase : phase ≠ .checking)
    (hnew : channel.news f.channel f.watchers.length = true → channel.flag f.channel = true) :
    Sound channel (f.addWatcher phase) := by
  constructor
  · exact h.senders
  · intro v hv
    rcases Nat.lt_or_eq_of_le (Nat.le_of_lt_succ (by simpa [Family.addWatcher] using hv)) with
      hlt | rfl
    · exact h.raised_of_news v hlt
    · exact hnew
  · exact fun v hv => h.news_of_raised v (Family.checks_addWatcher hphase hv)
  · exact fun v hv => h.unreleased_of_sleeps v ⟨Family.checks_addWatcher hphase hv.1, hv.2⟩

/-- What is done to a channel while its flag stays and those that check keep their news. -/
theorem act
    (h : Sound channel f) {act : ChannelAct} {handles : List Bool}
    (hflag : ∀ flag, act.onFlag flag = flag)
    (hsenders : act.onSenders (channel.senders f.channel) = handles.count true)
    (hold : ∀ v < f.watchers.length, act.onNews (channel.news f.channel) v = true →
      channel.news f.channel v = true)
    (hkeeps : ∀ v, f.Checks v → channel.news f.channel v = true →
      act.onNews (channel.news f.channel) v = true)
    (hsleeps : ∀ v, f.Checks v → channel.asleep (channel.act act f.channel) v = true →
      channel.flag f.channel = false ∧ handles.count true ≠ 0) :
    Sound channel { f.act channel act with handles := handles } := by
  have hflag' : channel.flag (channel.act act f.channel) = channel.flag f.channel := by
    rw [channel.flag_act, hflag]
  have hsenders' : channel.senders (channel.act act f.channel) = handles.count true := by
    rw [channel.senders_act, hsenders]
  constructor
  · exact hsenders'
  · intro v hv hnews
    rw [Family.act, channel.news_act] at hnews
    exact hflag'.trans (h.raised_of_news v hv (hold v hv hnews))
  · intro v hv hraised
    rw [Family.act, channel.news_act]
    exact hkeeps v hv (h.news_of_raised v hv (hflag'.symm.trans hraised))
  · rintro v ⟨hv, hasleep⟩
    rw [Family.act, hflag', hsenders']
    exact hsleeps v hv hasleep

/-- What is done on the side of the receivers wakes nobody who should sleep. -/
theorem act_receiver
    (h : Sound channel f) {act : ChannelAct} (hflag : ∀ flag, act.onFlag flag = flag)
    (hsenders : ∀ n, act.onSenders n = n) (hsleep : ∀ r, act ≠ .sleep r)
    (hold : ∀ v < f.watchers.length, act.onNews (channel.news f.channel) v = true →
      channel.news f.channel v = true)
    (hkeeps : ∀ v, f.Checks v → channel.news f.channel v = true →
      act.onNews (channel.news f.channel) v = true) :
    Sound channel (f.act channel act) := by
  refine h.act hflag ((hsenders _).trans h.senders) hold hkeeps ?_
  intro v hv hasleep
  have hbefore := (channel.asleep_act _ _ _ hasleep).resolve_left (hsleep v)
  exact h.senders ▸ h.unreleased_of_sleeps v ⟨hv, hbefore.1⟩

theorem clone (h : Sound channel f) :
    Sound channel { f.act channel .addSender with handles := f.handles ++ [true] } := by
  have hcount : channel.senders f.channel + 1 = (f.handles ++ [true]).count true := by
    simp [h.senders]
  refine h.act (fun _ => rfl) hcount (fun _ _ h => h) (fun _ _ h => h) ?_
  intro v hv hasleep
  have hbefore := (channel.asleep_act _ _ _ hasleep).resolve_left (by simp)
  exact ⟨(h.unreleased_of_sleeps v ⟨hv, hbefore.1⟩).1, by omega⟩

theorem drop (h : Sound channel f) {handle : Nat} (hheld : f.Holds handle) :
    Sound channel { f.act channel .dropSender with handles := f.handles.set handle false } := by
  obtain ⟨hlt, htrue⟩ := List.getElem?_eq_some_iff.mp hheld
  have hcount : channel.senders f.channel - 1 = (f.handles.set handle false).count true := by
    simp [List.count_set, hlt, htrue, h.senders]
  refine h.act (fun _ => rfl) hcount (fun _ _ h => h) (fun _ _ h => h) ?_
  intro v hv hasleep
  obtain ⟨hbefore, hlast⟩ := (channel.asleep_act _ _ _ hasleep).resolve_left (by simp)
  obtain ⟨hflag, hsenders⟩ := h.unreleased_of_sleeps v ⟨hv, hbefore⟩
  have hmore : channel.senders f.channel ≠ 1 := hlast
  exact ⟨hflag, by omega⟩

theorem trigger (h : Sound channel f) : Sound channel (f.act channel (.send true)) := by
  constructor
  · rw [Family.act, channel.senders_act]
    exact h.senders
  · simp [Family.act, channel.flag_act, ChannelAct.onFlag]
  · simp [Family.act, channel.news_act, ChannelAct.onNews]
  · rintro v ⟨-, hasleep⟩
    obtain ⟨-, hnot⟩ := (channel.asleep_act _ _ _ hasleep).resolve_left (by simp)
    exact absurd trivial hnot

/-- A watcher that checks without news has to wait for something. -/
theorem unreleased_of_no_news
    (h : Sound channel f) (hchecks : f.Checks w) (hnone : channel.news f.channel w = false) :
    channel.flag f.channel = false := by
  by_contra hup
  have hnews := h.news_of_raised w hchecks (by simpa using hup)
  simp [hnone] at hnews

theorem sleep
    (h : Sound channel f) (hchecks : f.Checks w) (hnone : channel.news f.channel w = false)
    (hopen : channel.senders f.channel ≠ 0) :
    Sound channel (f.act channel (.sleep w)) :=
  h.act (fun _ => rfl) h.senders (fun _ _ h => h) (fun _ _ h => h)
    fun _ _ _ => ⟨h.unreleased_of_no_news hchecks hnone, h.senders ▸ hopen⟩

theorem look (h : Sound channel f) (hlooks : f.Looks w) :
    Sound channel (f.act channel (.look w)) := by
  refine h.act_receiver (fun _ => rfl) (fun _ => rfl) (by simp) ?_ ?_
  · intro v hv hnews
    by_cases hvw : v = w
    · simp [ChannelAct.onNews, hvw] at hnews
    · simpa [ChannelAct.onNews, hvw] using hnews
  · intro v hv hnews
    have hvw : v ≠ w := by
      rintro rfl
      exact absurd (hlooks.symm.trans hv) (by simp)
    simpa [ChannelAct.onNews, hvw] using hnews

/-- A new watcher gets a number that nobody had before, and no news of its own. -/
theorem newWatcher
    (h : Sound channel f) {act : ChannelAct} {phase : Phase} {flag : Bool}
    (hflag : ∀ flag, act.onFlag flag = flag) (hsenders : ∀ n, act.onSenders n = n)
    (hsleep : ∀ r, act ≠ .sleep r) (hphase : phase ≠ .checking)
    (hnews : act.onNews (channel.news f.channel) =
      Function.update (channel.news f.channel) f.watchers.length flag)
    (hnew : flag = true → channel.flag f.channel = true) :
    Sound channel ((f.act channel act).addWatcher phase) := by
  have hothers : ∀ v < f.watchers.length,
      act.onNews (channel.news f.channel) v = channel.news f.channel v := by
    intro v hv
    rw [hnews, Function.update_of_ne (Nat.ne_of_lt hv)]
  refine addWatcher (h.act_receiver hflag hsenders hsleep ?_ ?_) hphase ?_
  · exact fun v hv hv' => (hothers v hv).symm.trans hv'
  · exact fun v hv hv' => (hothers v hv.lt_length).trans hv'
  · rw [Family.act, channel.news_act, channel.flag_act, hflag, hnews, Function.update_self]
    exact hnew

end Sound

/-- **Every move keeps the channel fitting its users.** -/
theorem Step.sound (h : Step channel f m a f') (hf : Sound channel f) : Sound channel f' := by
  cases h with
  | clone hheld => exact hf.clone
  | drop hheld => exact hf.drop hheld
  | trigger hheld => exact hf.trigger
  | askHandle hheld => exact hf
  | subscribe hheld =>
      exact hf.newWatcher (fun _ => rfl) (fun _ => rfl) (by simp) (by decide) rfl (by simp)
  | waitOn hheld =>
      exact hf.newWatcher (fun _ => rfl) (fun _ => rfl) (by simp) (by decide) rfl (by simp)
  | copy hphase hthere =>
      have hw := (List.getElem?_eq_some_iff.mp hphase).1
      exact hf.newWatcher (fun _ => rfl) (fun _ => rfl) (by simp) (by decide) rfl
        (hf.raised_of_news _ hw)
  | @discard w phase hphase hthere =>
      have hact : Sound channel (f.act channel (.dropReceiver w)) :=
        hf.act_receiver (fun _ => rfl) (fun _ => rfl) (by simp) (fun _ _ h => h) (fun _ _ h => h)
      exact hact.setPhase (by decide) w
  | askWatcher hphase hthere => exact hf
  | wait hidle => exact hf.setPhase (by decide) _
  | giveUp hwaits => exact hf.setPhase (by decide) _
  | lookUp hlooks hflag => exact (hf.look hlooks).setPhase (by decide) _
  | @lookDown w hlooks hflag =>
      have hawake : channel.asleep (channel.act (.look w) f.channel) w = false := by
        rw [Bool.eq_false_iff]
        intro hasleep
        obtain ⟨-, hnot⟩ := (channel.asleep_act _ _ _ hasleep).resolve_left (by simp)
        exact hnot rfl
      exact (hf.look hlooks).check ((channel.flag_act _ _).trans hflag) hawake
  | asleep hsleeps => exact hf
  | news hchecks hawake hnews => exact hf.setPhase (by decide) _
  | closed hchecks hawake hnone hclosed => exact hf.setPhase (by decide) _
  | fallAsleep hchecks hawake hnone hopen => exact hf.sleep hchecks hnone hopen

theorem Runs.sound (h : Runs channel f later f') (hf : Sound channel f) : Sound channel f' := by
  induction h with
  | nil f => exact hf
  | cons hstep hlater ih => exact ih (hstep.sound hf)

/-- A watcher goes on when the flag is up or the channel is closed. -/
theorem Sound.released_iff (h : Sound channel f) :
    (f.signal channel).released = true ↔
      channel.flag f.channel = true ∨ channel.senders f.channel = 0 := by
  rw [h.senders, List.count_eq_zero]
  simp [released, held, Family.signal]

/-- A wait ends only after the release. -/
theorem Step.released_of_over (h : Step channel f m .over f') (hf : Sound channel f) :
    (f.signal channel).released = true := by
  rw [hf.released_iff]
  cases h with
  | lookUp hlooks hflag => exact .inl hflag
  | closed hchecks hawake hnone hclosed => exact .inr hclosed

/-- Nobody sleeps after the release. -/
theorem Sound.not_sleeps_of_released
    (h : Sound channel f) (hreleased : (f.signal channel).released = true) :
    ¬ f.Sleeps channel w := by
  intro hsleeps
  obtain ⟨hflag, hsenders⟩ := h.unreleased_of_sleeps w hsleeps
  rcases h.released_iff.mp hreleased with hup | hclosed
  · simp [hflag] at hup
  · exact hsenders hclosed

/-- Who holds a handle keeps the channel open. -/
theorem Sound.raised_of_holds
    (h : Sound channel f) (hreleased : (f.signal channel).released = true) {handle : Nat}
    (hheld : f.Holds handle) :
    channel.flag f.channel = true := by
  refine (h.released_iff.mp hreleased).resolve_right ?_
  rw [h.senders, List.count_eq_zero, not_not]
  exact List.mem_of_getElem? hheld

theorem Move.raised_onSignal {s : Shutdown} (m : Move) :
    (m.onSignal s).raised = true ↔ s.raised = true ∨ ∃ handle, m = .trigger handle := by
  cases m <;> simp [onSignal, Shutdown.clone, Shutdown.drop, Shutdown.trigger, Shutdown.subscribe]

theorem Move.held_onSignal {s : Shutdown} (m : Move) (hheld : s.held = false)
    (hclone : ∀ handle, m ≠ .clone handle) :
    (m.onSignal s).held = false := by
  cases m with
  | clone handle => exact absurd rfl (hclone handle)
  | drop handle =>
      rw [held, List.any_eq_false] at hheld ⊢
      intro alive halive
      rcases List.mem_or_eq_of_mem_set halive with hold | rfl
      · exact hheld alive hold
      · decide
  | _ => exact hheld

/-- What is released stays released. -/
theorem Step.released
    (h : Step channel f m a f') (hf : Sound channel f)
    (hreleased : (f.signal channel).released = true) :
    (f'.signal channel).released = true := by
  rw [h.signal]
  by_cases hraised : (f.signal channel).raised = true
  · have hstill := m.raised_onSignal.mpr (.inl hraised)
    simp [Shutdown.released, hstill]
  · have hheld : (f.signal channel).held = false := by
      simpa [Shutdown.released, hraised] using hreleased
    have hclone : ∀ handle, m ≠ .clone handle := by
      rintro handle rfl
      cases h with
      | clone hholds => exact hraised (hf.raised_of_holds hreleased hholds)
    have hstill := m.held_onSignal hheld hclone
    simp [Shutdown.released, hstill]

theorem Runs.released
    (h : Runs channel f later f') (hf : Sound channel f)
    (hreleased : (f.signal channel).released = true) :
    (f'.signal channel).released = true := by
  induction h with
  | nil f => exact hreleased
  | cons hstep hlater ih => exact ih (hstep.sound hf) (hstep.released hf hreleased)

end Shutdown

end WalletEvents
