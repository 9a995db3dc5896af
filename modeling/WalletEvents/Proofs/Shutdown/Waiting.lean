import WalletEvents.Proofs.Shutdown.Sound

/-!
# Waiting for a stop signal

**Progress.** A watcher that waits can always go on, which ends the wait or not
(`Shutdown.Family.Waits.exists_turn`). Once the signal is released it does not
sleep, each turn of its own brings it nearer to the end, and the moves of the
others do not put it off (`Shutdown.Runs.progress`): it has found the flag up or
the news that it is, or there is none and the channel is closed. Before the
release no turn ends a wait.

**Result.** `Shutdown.sticky_and_shared` reads all of this off the history: what
has been triggered and dropped decides what everyone is told, and which waits
end.
-/

namespace WalletEvents

namespace Shutdown

variable {κ : Type} {channel : WatchChannel κ} {f g f' : Family κ} {m : Move} {a : Answer}
variable {w : Nat} {history later : List (Move × Answer)}

/-- How many turns a wait has left when the signal is released. -/
def turnsLeft (channel : WatchChannel κ) (f : Family κ) (w : Nat) : Nat :=
  match f.watchers[w]? with
  | some .looking => if channel.flag f.channel then 1 else 2
  | some .checking => if channel.news f.channel w then 2 else 1
  | _ => 0

theorem Family.Looks.turnsLeft_eq (h : f.Looks w) :
    turnsLeft channel f w = if channel.flag f.channel then 1 else 2 := by
  rw [turnsLeft, h]

theorem Family.Checks.turnsLeft_eq (h : f.Checks w) :
    turnsLeft channel f w = if channel.news f.channel w then 2 else 1 := by
  rw [turnsLeft, h]

theorem Family.Waits.turnsLeft_bounds (h : f.Waits w) (channel : WatchChannel κ) :
    1 ≤ turnsLeft channel f w ∧ turnsLeft channel f w ≤ 2 := by
  rcases h with hlooks | hchecks
  · rw [hlooks.turnsLeft_eq]
    split <;> omega
  · rw [hchecks.turnsLeft_eq]
    split <;> omega

theorem Family.Waits.lt_length (h : f.Waits w) : w < f.watchers.length := by
  rcases h with hlooks | hchecks
  · exact (List.getElem?_eq_some_iff.mp hlooks).1
  · exact hchecks.lt_length

theorem Family.phase_setPhase {phase : Phase} (hw : w < f.watchers.length) :
    (f.setPhase w phase).watchers[w]? = some phase := by
  simp [setPhase, hw]

/-- A turn brings a wait nearer to its end. -/
theorem Step.turn_progress
    (h : Step channel f (.turn w) a f') (hf : Sound channel f)
    (hreleased : (f.signal channel).released = true) :
    a = .over ∨ f'.Waits w ∧ turnsLeft channel f' w < turnsLeft channel f w := by
  generalize hm : Move.turn w = m at h
  cases h with
  | lookUp hlooks hflag => exact .inl rfl
  | lookDown hlooks hflag =>
      cases hm
      have hchecks : ((f.act channel (.look w)).setPhase w .checking).Checks w :=
        Family.phase_setPhase (List.getElem?_eq_some_iff.mp hlooks).1
      refine .inr ⟨.inr hchecks, ?_⟩
      rw [hlooks.turnsLeft_eq, hchecks.turnsLeft_eq]
      simp [Family.act, Family.setPhase, channel.news_act, ChannelAct.onNews, hflag]
  | asleep hsleeps =>
      exact absurd hsleeps (hf.not_sleeps_of_released hreleased)
  | news hchecks hawake hnews =>
      cases hm
      have hlooks : (f.setPhase w .looking).Looks w := Family.phase_setPhase hchecks.lt_length
      have hflag : channel.flag (f.setPhase w .looking).channel = true :=
        hf.raised_of_news w hchecks.lt_length hnews
      refine .inr ⟨.inl hlooks, ?_⟩
      rw [hchecks.turnsLeft_eq, hlooks.turnsLeft_eq]
      simp [hnews, hflag]
  | closed hchecks hawake hnone hclosed => exact .inl rfl
  | fallAsleep hchecks hawake hnone hopen =>
      cases hm
      rcases hf.released_iff.mp hreleased with hup | hclosed
      · simp [hf.unreleased_of_no_news hchecks hnone] at hup
      · exact absurd hclosed hopen
  | _ => cases hm

/-- The others do not change how far a wait has come. -/
theorem Step.watchers_eq
    (h : Step channel f m a f') (hw : f.Waits w) (hturn : m ≠ .turn w)
    (hgive : m ≠ .giveUp w) (hdiscard : m ≠ .discard w) :
    f'.watchers[w]? = f.watchers[w]? := by
  have hlt := hw.lt_length
  have hadded : ∀ phase, (f.watchers ++ [phase])[w]? = f.watchers[w]? :=
    fun phase => List.getElem?_append_left hlt
  have hset : ∀ {v : Nat} {phase : Phase}, v ≠ w → (f.watchers.set v phase)[w]? = f.watchers[w]? :=
    fun hne => List.getElem?_set_ne hne
  cases h with
  | subscribe hheld => exact hadded _
  | waitOn hheld => exact hadded _
  | copy hphase hthere => exact hadded _
  | @discard v phase hphase hthere => exact hset fun h => hdiscard (h ▸ rfl)
  | @wait v hidle =>
      refine hset ?_
      rintro rfl
      rcases hw with hlooks | hchecks
      · exact absurd (hidle.symm.trans hlooks) (by simp)
      · exact absurd (hidle.symm.trans hchecks) (by simp)
  | @giveUp v hwaits => exact hset fun h => hgive (h ▸ rfl)
  | @lookUp v hlooks hflag => exact hset fun h => hturn (h ▸ rfl)
  | @lookDown v hlooks hflag => exact hset fun h => hturn (h ▸ rfl)
  | @news v hchecks hawake hnews => exact hset fun h => hturn (h ▸ rfl)
  | @closed v hchecks hawake hnone hclosed => exact hset fun h => hturn (h ▸ rfl)
  | _ => rfl

/-- Only raising the signal is news. -/
theorem Step.news_eq
    (h : Step channel f m a f') (hlt : w < f.watchers.length) (hturn : m ≠ .turn w)
    (htrigger : ∀ handle, m ≠ .trigger handle) :
    channel.news f'.channel w = channel.news f.channel w := by
  have hacts := channel.news_act
  have hother : ∀ {news : Nat → Bool} {v : Nat} {flag : Bool}, v ≠ w →
      Function.update news v flag w = news w :=
    fun hne => Function.update_of_ne (Ne.symm hne) _ _
  cases h with
  | trigger hheld => exact absurd rfl (htrigger _)
  | subscribe hheld => exact (congrFun (hacts _ _) w).trans (hother (Nat.ne_of_gt hlt))
  | waitOn hheld => exact (congrFun (hacts _ _) w).trans (hother (Nat.ne_of_gt hlt))
  | copy hphase hthere => exact (congrFun (hacts _ _) w).trans (hother (Nat.ne_of_gt hlt))
  | @lookUp v hlooks hflag => exact (congrFun (hacts _ _) w).trans (hother fun h => hturn (h ▸ rfl))
  | @lookDown v hlooks hflag =>
      exact (congrFun (hacts _ _) w).trans (hother fun h => hturn (h ▸ rfl))
  | clone hheld => exact congrFun (hacts _ _) w
  | drop hheld => exact congrFun (hacts _ _) w
  | discard hphase hthere => exact congrFun (hacts _ _) w
  | fallAsleep hchecks hawake hnone hopen => exact congrFun (hacts _ _) w
  | _ => rfl

/-- The moves of the others do not put a wait off. -/
theorem Step.others_progress
    (h : Step channel f m a f') (hf : Sound channel f)
    (hreleased : (f.signal channel).released = true) (hw : f.Waits w) (hturn : m ≠ .turn w)
    (hgive : m ≠ .giveUp w) (hdiscard : m ≠ .discard w) :
    f'.Waits w ∧ turnsLeft channel f' w ≤ turnsLeft channel f w := by
  have hsame := h.watchers_eq hw hturn hgive hdiscard
  rcases hw with hlooks | hchecks
  · have hlooks' : f'.Looks w := hsame.trans hlooks
    refine ⟨.inl hlooks', ?_⟩
    rw [hlooks.turnsLeft_eq, hlooks'.turnsLeft_eq]
    by_cases hflag : channel.flag f.channel = true
    · have hraised : (f'.signal channel).raised = true := by
        rw [h.signal]
        exact m.raised_onSignal.mpr (.inl hflag)
      have hflag' : channel.flag f'.channel = true := hraised
      simp [hflag, hflag']
    · rw [if_neg hflag]
      split <;> omega
  · have hchecks' : f'.Checks w := hsame.trans hchecks
    refine ⟨.inr hchecks', ?_⟩
    rw [hchecks.turnsLeft_eq, hchecks'.turnsLeft_eq]
    by_cases htrigger : ∃ handle, m = .trigger handle
    · obtain ⟨handle, rfl⟩ := htrigger
      have hflag : channel.flag f.channel = true := by
        cases h with
        | trigger hheld => exact hf.raised_of_holds hreleased hheld
      rw [if_pos (hf.news_of_raised w hchecks hflag)]
      split <;> omega
    · have hnews := h.news_eq hchecks.lt_length hturn fun handle heq => htrigger ⟨handle, heq⟩
      exact Nat.le_of_eq (by rw [hnews])

/-- How many turns the watcher has in a history. -/
def turns (w : Nat) (history : List (Move × Answer)) : Nat :=
  history.countP fun entry => entry.1 = .turn w

/-- The wait of the watcher is not abandoned. -/
def Undisturbed (w : Nat) (history : List (Move × Answer)) : Prop :=
  ∀ entry ∈ history, entry.1 ≠ .giveUp w ∧ entry.1 ≠ .discard w

/-- The wait of the watcher ends, however the others go on: as long as it has not ended the watcher
can go on and does not sleep, and it ends at its second turn at the latest. -/
def WillEnd (channel : WatchChannel κ) (f : Family κ) (w : Nat) : Prop :=
  ∀ later f', Runs channel f later f' → Undisturbed w later →
    (.turn w, .over) ∈ later ∨
      (∃ a g, Step channel f' (.turn w) a g) ∧ ¬ f'.Sleeps channel w ∧ turns w later < 2

/-- **The progress of a wait** when the signal is released. -/
theorem Runs.progress
    (h : Runs channel f later f') (hf : Sound channel f)
    (hreleased : (f.signal channel).released = true) (hw : f.Waits w)
    (hundisturbed : Undisturbed w later) :
    (.turn w, .over) ∈ later ∨
      f'.Waits w ∧ turns w later + turnsLeft channel f' w ≤ turnsLeft channel f w := by
  induction h with
  | nil f => exact .inr ⟨hw, by simp [turns]⟩
  | @cons f g f' m a later hstep hlater ih =>
      obtain ⟨⟨hgive, hdiscard⟩, hundisturbed⟩ := List.forall_mem_cons.mp hundisturbed
      have hrest := fun hw => ih (hstep.sound hf) (hstep.released hf hreleased) hw hundisturbed
      by_cases hturn : m = .turn w
      · subst hturn
        rcases hstep.turn_progress hf hreleased with rfl | ⟨hw', hless⟩
        · exact .inl List.mem_cons_self
        · refine (hrest hw').imp (List.mem_cons_of_mem _) fun ⟨hwaits, hle⟩ => ⟨hwaits, ?_⟩
          have hcount : turns w ((.turn w, a) :: later) = turns w later + 1 := by simp [turns]
          omega
      · obtain ⟨hw', hle⟩ := hstep.others_progress hf hreleased hw hturn hgive hdiscard
        refine (hrest hw').imp (List.mem_cons_of_mem _) fun ⟨hwaits, hle'⟩ => ⟨hwaits, ?_⟩
        have hcount : turns w ((m, a) :: later) = turns w later := by simp [turns, hturn]
        omega

/-- Who waits can go on, which ends the wait or not. -/
theorem Family.Waits.exists_turn (hw : f.Waits w) (channel : WatchChannel κ) :
    ∃ a g, Step channel f (.turn w) a g ∧ (a = .over ∨ g.Waits w) := by
  rcases hw with hlooks | hchecks
  · cases hflag : channel.flag f.channel with
    | true => exact ⟨_, _, .lookUp hlooks hflag, .inl rfl⟩
    | false =>
        have hlt := (List.getElem?_eq_some_iff.mp hlooks).1
        exact ⟨_, _, .lookDown hlooks hflag, .inr (.inr (Family.phase_setPhase hlt))⟩
  · cases hasleep : channel.asleep f.channel w with
    | true => exact ⟨_, _, .asleep ⟨hchecks, hasleep⟩, .inr (.inr hchecks)⟩
    | false =>
        cases hnews : channel.news f.channel w with
        | true =>
            have hlt := hchecks.lt_length
            exact ⟨_, _, .news hchecks hasleep hnews, .inr (.inl (Family.phase_setPhase hlt))⟩
        | false =>
            by_cases hclosed : channel.senders f.channel = 0
            · exact ⟨_, _, .closed hchecks hasleep hnews hclosed, .inl rfl⟩
            · exact ⟨_, _, .fallAsleep hchecks hasleep hnews hclosed, .inr (.inr hchecks)⟩

/-- As long as the signal is not released a wait can take a turn that does not end it. -/
theorem exists_turn_of_unreleased
    (hf : Sound channel f) (hreleased : (f.signal channel).released = false) (hw : f.Waits w) :
    ∃ a g, Step channel f (.turn w) a g ∧ a ≠ .over ∧ g.Waits w ∧
      (g.signal channel).released = false := by
  obtain ⟨a, g, hstep, hor⟩ := hw.exists_turn channel
  have hover : a ≠ .over := by
    rintro rfl
    exact absurd (hstep.released_of_over hf) (by simp [hreleased])
  have hsignal : g.signal channel = f.signal channel := hstep.signal
  exact ⟨a, g, hstep, hover, hor.resolve_left hover, hsignal ▸ hreleased⟩

/-- **A wait ends exactly if the signal is released.** -/
theorem willEnd_iff (hf : Sound channel f) (hw : f.Waits w) :
    WillEnd channel f w ↔ (f.signal channel).released = true := by
  constructor
  · intro hends
    by_contra hnot
    have hreleased : (f.signal channel).released = false := by simpa using hnot
    obtain ⟨a, g, hfirst, ha, hw', hreleased'⟩ := exists_turn_of_unreleased hf hreleased hw
    obtain ⟨a', g', hsecond, ha', -, -⟩ :=
      exists_turn_of_unreleased (hfirst.sound hf) hreleased' hw'
    rcases hends _ g' (.cons hfirst (.cons hsecond (.nil g'))) (by simp [Undisturbed]) with
      hover | ⟨-, -, hturns⟩
    · simp [ha.symm, ha'.symm] at hover
    · simp [turns] at hturns
  · intro hreleased later f' hlater hundisturbed
    refine (hlater.progress hf hreleased hw hundisturbed).imp_right ?_
    rintro ⟨hw', hle⟩
    obtain ⟨a, g, hstep, -⟩ := hw'.exists_turn channel
    obtain ⟨hleast, -⟩ := hw'.turnsLeft_bounds channel
    obtain ⟨-, hmost⟩ := hw.turnsLeft_bounds channel
    have hawake : ¬ f'.Sleeps channel w :=
      (hlater.sound hf).not_sleeps_of_released (hlater.released hf hreleased)
    exact ⟨⟨a, g, hstep⟩, hawake, by omega⟩

/-- Some handle has raised the signal. -/
def Triggered (history : List (Move × Answer)) : Prop :=
  ∃ handle answer, (.trigger handle, answer) ∈ history

/-- Every handle that there ever was has been dropped. -/
def AllDropped (history : List (Move × Answer)) : Prop :=
  ∀ handle < (after history).handles.length, ∃ answer, (.drop handle, answer) ∈ history

theorem raised_after_iff : (after history).raised = true ↔ Triggered history := by
  have hfrom : ∀ s : Shutdown,
      (history.foldl (fun s entry => entry.1.onSignal s) s).raised = true ↔
        s.raised = true ∨ Triggered history := by
    induction history with
    | nil => simp [Triggered]
    | cons entry history ih =>
        intro s
        obtain ⟨m, a⟩ := entry
        rw [List.foldl_cons, ih, m.raised_onSignal]
        simp only [Triggered, List.mem_cons, Prod.mk.injEq]
        grind
  exact (hfrom new).trans (by simp [new])

/-- A move drops a handle or leaves it as it was. -/
theorem Step.dropped_iff (h : Step channel f m a f') {handle : Nat} :
    f'.handles[handle]? = some false ↔ f.handles[handle]? = some false ∨ m = .drop handle := by
  cases h with
  | clone hheld =>
      simp only [List.getElem?_append, reduceCtorEq, or_false]
      grind
  | @drop h hheld =>
      have hlt := (List.getElem?_eq_some_iff.mp hheld).1
      simp only [List.getElem?_set, Move.drop.injEq]
      grind
  | _ => simp [Family.act, Family.setPhase, Family.addWatcher]

/-- A handle is dead exactly if it was so before or has been dropped. -/
theorem Runs.dropped_iff (h : Runs channel f later f') {handle : Nat} :
    f'.handles[handle]? = some false ↔
      f.handles[handle]? = some false ∨ ∃ answer, (.drop handle, answer) ∈ later := by
  induction h with
  | nil f => simp
  | cons hstep hlater ih =>
      rw [ih, hstep.dropped_iff]
      simp only [List.mem_cons, Prod.mk.injEq]
      grind

theorem Runs.held_after_iff (h : Runs channel (Family.start channel) history f) :
    (after history).held = false ↔ AllDropped history := by
  have hdropped : ∀ handle, f.handles[handle]? = some false ↔
      ∃ answer, (.drop handle, answer) ∈ history := by
    intro handle
    rw [h.dropped_iff]
    simp [Family.start, List.getElem?_singleton]
  have hhandles : (after history).handles = f.handles := congrArg Shutdown.handles h.signal.symm
  rw [held, AllDropped, hhandles, List.any_eq_false]
  constructor
  · intro hdead handle hlt
    have hfalse : f.handles[handle] = false := by simpa using hdead _ (List.getElem_mem hlt)
    exact (hdropped handle).mp (List.getElem?_eq_some_iff.mpr ⟨hlt, hfalse⟩)
  · intro hall alive halive
    obtain ⟨handle, hlt, rfl⟩ := List.mem_iff_getElem.mp halive
    have hfalse := (hdropped handle).mpr (hall handle hlt)
    rw [List.getElem?_eq_getElem hlt, Option.some_inj] at hfalse
    simp [hfalse]

/-- The signal is released exactly if it was raised or every handle dropped. -/
theorem Runs.released_after_iff (h : Runs channel (Family.start channel) history f) :
    (after history).released = true ↔ Triggered history ∨ AllDropped history := by
  rw [← raised_after_iff, ← h.held_after_iff]
  simp [Shutdown.released]

/--
**A stop signal is sticky and shared.** Take any channel and any history of its handles and
watchers.

* The signal is raised exactly if some handle has raised it, and nobody holds it exactly if every
  handle has been dropped.
* Whoever asked at any time was told whether it had been raised by then.
* A wait that ended at any time did so after it had been raised or every handle dropped.
* A wait in progress will end exactly if it has been raised or every handle dropped.
-/
theorem sticky_and_shared (h : Runs channel (Family.start channel) history f) :
    ((after history).raised = true ↔ Triggered history) ∧
    ((after history).held = false ↔ AllDropped history) ∧
    (∀ before m raised later, history = before ++ (m, .told raised) :: later →
      (raised = true ↔ Triggered before)) ∧
    (∀ before m later, history = before ++ (m, .over) :: later →
      Triggered before ∨ AllDropped before) ∧
    (∀ w, f.Waits w → (WillEnd channel f w ↔ Triggered history ∨ AllDropped history)) := by
  refine ⟨raised_after_iff, h.held_after_iff, ?_, ?_, ?_⟩
  · rintro before m raised later rfl
    obtain ⟨g, g', hbefore, hstep⟩ := h.step_of_mem
    rw [hstep.told_eq, hbefore.signal, raised_after_iff]
  · rintro before m later rfl
    obtain ⟨g, g', hbefore, hstep⟩ := h.step_of_mem
    rw [← hbefore.released_after_iff, ← hbefore.signal]
    exact hstep.released_of_over (hbefore.sound sound_start)
  · intro w hw
    rw [← h.released_after_iff, ← h.signal]
    exact willEnd_iff (h.sound sound_start) hw

/-- One watcher sleeps when the signal is raised by a clone of a handle that is gone, and another
one begins to wait later. -/
def earlyAndLate : List (Move × Answer) :=
  [(.subscribe 0, .done), (.wait 0, .done), (.turn 0, .done), (.turn 0, .done),
    (.askHandle 0, .told false), (.clone 0, .done), (.drop 0, .done), (.turn 0, .done),
    (.trigger 1, .done), (.subscribe 1, .done), (.wait 1, .done), (.askWatcher 1, .told true)]

theorem willEnd_of_earlyAndLate :
    ∃ f, Runs .versioned (Family.start .versioned) earlyAndLate f ∧
      (f.Waits 0 ∧ WillEnd .versioned f 0) ∧ (f.Waits 1 ∧ WillEnd .versioned f 1) := by
  obtain ⟨f, hf, hphases⟩ : ∃ f, Runs .versioned (Family.start .versioned) earlyAndLate f ∧
      f.watchers = [.checking, .looking] :=
    ⟨_, .cons (.subscribe rfl) (.cons (.wait rfl) (.cons (.lookDown rfl rfl)
      (.cons (.fallAsleep rfl rfl rfl (by decide)) (.cons (.askHandle rfl)
      (.cons (.clone rfl) (.cons (.drop rfl) (.cons (.asleep ⟨rfl, rfl⟩)
      (.cons (.trigger rfl) (.cons (.subscribe rfl) (.cons (.wait rfl)
      (.cons (.askWatcher rfl (by decide)) (.nil _)))))))))))), rfl⟩
  have hearly : f.Waits 0 := .inr (by rw [Family.Checks, hphases]; rfl)
  have hlate : f.Waits 1 := .inl (by rw [Family.Looks, hphases]; rfl)
  have htriggered : Triggered earlyAndLate := ⟨1, .done, by decide⟩
  obtain ⟨-, -, -, -, hwaits⟩ := sticky_and_shared hf
  exact ⟨f, hf, ⟨hearly, (hwaits 0 hearly).mpr (.inl htriggered)⟩,
    ⟨hlate, (hwaits 1 hlate).mpr (.inl htriggered)⟩⟩

end Shutdown

end WalletEvents
