import WalletEvents.Proofs.Shutdown.Channel

/-!
# Handles and watchers of one signal

The handles of a stop signal are senders of one channel, its watchers are
receivers of it. All of them move one after another in any order, so every
interleaving is a sequence of moves.

**A wait** takes several moves of its watcher, its turns. The watcher looks at
the flag and is done if that is up. Otherwise it checks how to go on: if there
is news it looks again, if the channel is closed it is done as well, and else it
goes to sleep. Between any two turns the others may move; while the watcher
sleeps its turns come to nothing.

**Histories.** `Shutdown.Runs` says which moves there can be from one state to
another, and how they are answered. `Shutdown.after` is the stop signal that the
same moves make of a new one, in which nobody sleeps and nothing is sent;
`Shutdown.Runs.signal` says that the channel keeps it.
-/

namespace WalletEvents

namespace Shutdown

/-- How far a watcher has come with waiting. -/
inductive Phase where
  /-- It does not wait. -/
  | idle
  /-- It looks at the flag next. -/
  | looking
  /-- It has found the flag down, and checks next what to do. -/
  | checking
  | gone
  deriving DecidableEq

/-- A channel with its users: which handles are alive, and the phases of the watchers. -/
structure Family (κ : Type) where
  channel : κ
  handles : List Bool
  watchers : List Phase

/-- A move of a handle or of a watcher. -/
inductive Move where
  | clone (handle : Nat)
  | drop (handle : Nat)
  | trigger (handle : Nat)
  | askHandle (handle : Nat)
  | subscribe (handle : Nat)
  /-- The handle waits by a watcher of its own. -/
  | waitOn (handle : Nat)
  | copy (watcher : Nat)
  | discard (watcher : Nat)
  | askWatcher (watcher : Nat)
  | wait (watcher : Nat)
  /-- The wait of the watcher goes on. -/
  | turn (watcher : Nat)
  /-- The wait of the watcher is abandoned. -/
  | giveUp (watcher : Nat)
  deriving DecidableEq

/-- What a move is answered. -/
inductive Answer where
  | done
  /-- Whether the signal is raised. -/
  | told (raised : Bool)
  /-- The wait has ended. -/
  | over
  deriving DecidableEq

variable {κ : Type}

namespace Family

variable (channel : WatchChannel κ) (f : Family κ)

/-- A new signal, with one handle. -/
def start : Family κ := ⟨channel.new, [true], []⟩

def act (a : ChannelAct) : Family κ := { f with channel := channel.act a f.channel }

def setPhase (w : Nat) (phase : Phase) : Family κ :=
  { f with watchers := f.watchers.set w phase }

/-- The family with one more watcher. -/
def addWatcher (phase : Phase) : Family κ := { f with watchers := f.watchers ++ [phase] }

def Holds (h : Nat) : Prop := f.handles[h]? = some true

def Looks (w : Nat) : Prop := f.watchers[w]? = some .looking

def Checks (w : Nat) : Prop := f.watchers[w]? = some .checking

/-- A wait of the watcher is in progress. -/
def Waits (w : Nat) : Prop := f.Looks w ∨ f.Checks w

def Sleeps (w : Nat) : Prop := f.Checks w ∧ channel.asleep f.channel w = true

/-- The stop signal that the channel keeps. -/
def signal : Shutdown := ⟨channel.flag f.channel, f.handles, f.watchers.length⟩

end Family

/-- The moves that are possible, and their answers. A watcher that waits is not asked to wait
again. -/
inductive Step (channel : WatchChannel κ) (f : Family κ) : Move → Answer → Family κ → Prop
  | clone {h : Nat} (hheld : f.Holds h) :
      Step channel f (.clone h) .done
        { f.act channel .addSender with handles := f.handles ++ [true] }
  | drop {h : Nat} (hheld : f.Holds h) :
      Step channel f (.drop h) .done
        { f.act channel .dropSender with handles := f.handles.set h false }
  | trigger {h : Nat} (hheld : f.Holds h) :
      Step channel f (.trigger h) .done (f.act channel (.send true))
  | askHandle {h : Nat} (hheld : f.Holds h) :
      Step channel f (.askHandle h) (.told (channel.flag f.channel)) f
  | subscribe {h : Nat} (hheld : f.Holds h) :
      Step channel f (.subscribe h) .done
        ((f.act channel (.addReceiver f.watchers.length)).addWatcher .idle)
  | waitOn {h : Nat} (hheld : f.Holds h) :
      Step channel f (.waitOn h) .done
        ((f.act channel (.addReceiver f.watchers.length)).addWatcher .looking)
  | copy {w : Nat} {phase : Phase} (hphase : f.watchers[w]? = some phase) (hthere : phase ≠ .gone) :
      Step channel f (.copy w) .done
        ((f.act channel (.copyReceiver w f.watchers.length)).addWatcher .idle)
  | discard {w : Nat} {phase : Phase} (hphase : f.watchers[w]? = some phase)
      (hthere : phase ≠ .gone) :
      Step channel f (.discard w) .done ((f.act channel (.dropReceiver w)).setPhase w .gone)
  | askWatcher {w : Nat} {phase : Phase} (hphase : f.watchers[w]? = some phase)
      (hthere : phase ≠ .gone) :
      Step channel f (.askWatcher w) (.told (channel.flag f.channel)) f
  | wait {w : Nat} (hidle : f.watchers[w]? = some .idle) :
      Step channel f (.wait w) .done (f.setPhase w .looking)
  | giveUp {w : Nat} (hwaits : f.Waits w) :
      Step channel f (.giveUp w) .done (f.setPhase w .idle)
  | lookUp {w : Nat} (hlooks : f.Looks w)
      (hflag : channel.flag f.channel = true) :
      Step channel f (.turn w) .over ((f.act channel (.look w)).setPhase w .idle)
  | lookDown {w : Nat} (hlooks : f.Looks w)
      (hflag : channel.flag f.channel = false) :
      Step channel f (.turn w) .done ((f.act channel (.look w)).setPhase w .checking)
  | asleep {w : Nat} (hsleeps : f.Sleeps channel w) :
      Step channel f (.turn w) .done f
  | news {w : Nat} (hchecks : f.Checks w)
      (hawake : channel.asleep f.channel w = false) (hnews : channel.news f.channel w = true) :
      Step channel f (.turn w) .done (f.setPhase w .looking)
  | closed {w : Nat} (hchecks : f.Checks w)
      (hawake : channel.asleep f.channel w = false) (hnone : channel.news f.channel w = false)
      (hclosed : channel.senders f.channel = 0) :
      Step channel f (.turn w) .over (f.setPhase w .idle)
  | fallAsleep {w : Nat} (hchecks : f.Checks w)
      (hawake : channel.asleep f.channel w = false) (hnone : channel.news f.channel w = false)
      (hopen : channel.senders f.channel ≠ 0) :
      Step channel f (.turn w) .done (f.act channel (.sleep w))

/-- The moves from one state to another, with their answers. -/
inductive Runs (channel : WatchChannel κ) : Family κ → List (Move × Answer) → Family κ → Prop
  | nil (f : Family κ) : Runs channel f [] f
  | cons {f g f' : Family κ} {m : Move} {a : Answer} {later : List (Move × Answer)}
      (hstep : Step channel f m a g) (hlater : Runs channel g later f') :
      Runs channel f ((m, a) :: later) f'

namespace Move

/-- What a move makes of a stop signal. -/
def onSignal : Move → Shutdown → Shutdown
  | .clone _, s => s.clone
  | .drop h, s => s.drop h
  | .trigger _, s => s.trigger
  | .subscribe _, s => s.subscribe
  | .waitOn _, s => s.subscribe
  | .copy _, s => s.subscribe
  | _, s => s

end Move

/-- The stop signal after a history. -/
def after (history : List (Move × Answer)) : Shutdown :=
  history.foldl (fun s entry => entry.1.onSignal s) new

variable {channel : WatchChannel κ} {f g f' : Family κ} {m : Move} {a : Answer} {w : Nat}
variable {history later : List (Move × Answer)}

/-- A move does to the signal that is kept what it does to a signal. -/
theorem Step.signal (h : Step channel f m a f') :
    f'.signal channel = m.onSignal (f.signal channel) := by
  have hflag := fun act => channel.flag_act act f.channel
  cases h <;>
    simp [Family.signal, Family.act, Family.setPhase, Family.addWatcher, Move.onSignal, hflag,
      ChannelAct.onFlag, Shutdown.clone, Shutdown.drop, Shutdown.trigger, Shutdown.subscribe]

/-- Whoever asks is told whether the signal is raised. -/
theorem Step.told_eq {raised : Bool} (h : Step channel f m (.told raised) f') :
    raised = (f.signal channel).raised := by
  cases h <;> rfl

namespace Runs

/-- The channel keeps the signal that the moves make. -/
theorem signal_eq_foldl (h : Runs channel f later f') :
    f'.signal channel =
      later.foldl (fun s entry => entry.1.onSignal s) (f.signal channel) := by
  induction h with
  | nil f => rfl
  | cons hstep hlater ih => rw [ih, hstep.signal, List.foldl_cons]

/-- **The channel keeps the stop signal**, whatever the history. -/
theorem signal (h : Runs channel (Family.start channel) history f) :
    f.signal channel = after history := by
  have hnew : (Family.start channel).signal channel = new := by
    simp [Family.signal, Family.start, channel.flag_new, new]
  rw [h.signal_eq_foldl, hnew, after]

theorem append_inv (h : Runs channel f (history ++ later) f') :
    ∃ g, Runs channel f history g ∧ Runs channel g later f' := by
  induction history generalizing f with
  | nil => exact ⟨f, .nil f, h⟩
  | cons entry history ih =>
      cases h with
      | cons hstep hlater =>
          obtain ⟨g, hfirst, hrest⟩ := ih hlater
          exact ⟨g, .cons hstep hfirst, hrest⟩

/-- A move in the middle of a history was possible then. -/
theorem step_of_mem
    {before : List (Move × Answer)} (h : Runs channel f (before ++ (m, a) :: later) f') :
    ∃ g g', Runs channel f before g ∧ Step channel g m a g' := by
  obtain ⟨g, hbefore, hrest⟩ := h.append_inv
  cases hrest with
  | cons hstep hlater => exact ⟨g, _, hbefore, hstep⟩

end Runs

end Shutdown

end WalletEvents
