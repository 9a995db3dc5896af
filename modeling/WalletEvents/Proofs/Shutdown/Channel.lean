import Mathlib.Logic.Function.Basic
import WalletEvents.Shutdown

/-!
# Channels that keep a flag

A stop signal is kept in a channel: a flag that its senders set and that its
receivers look at. This module describes such a channel by what can be observed
of it, and not by how it keeps its books.

* **The flag** is what was sent last, be there receivers or not.
* **The senders** are counted. The channel is closed when there are none left.
* **News** for a receiver is what was sent since it was made or looked last. A
  copy of a receiver has the news of the one that it was made from.
* **Sleep.** A receiver that has gone to sleep sleeps until something is sent,
  the last sender goes, or it looks again. It may also wake for no reason.

`WatchChannel.versioned` is a channel of this kind, which numbers what is sent.
-/

namespace WalletEvents

/-- What is done to a channel. Receivers have numbers. -/
inductive ChannelAct where
  | send (flag : Bool)
  | addSender
  | dropSender
  | addReceiver (r : Nat)
  | copyReceiver (r copy : Nat)
  | dropReceiver (r : Nat)
  | look (r : Nat)
  | sleep (r : Nat)

namespace ChannelAct

/-- The flag afterwards. -/
def onFlag : ChannelAct → Bool → Bool
  | .send flag, _ => flag
  | _, flag => flag

/-- The number of senders afterwards. -/
def onSenders : ChannelAct → Nat → Nat
  | .addSender, n => n + 1
  | .dropSender, n => n - 1
  | _, n => n

/-- What is news to whom afterwards. -/
def onNews : ChannelAct → (Nat → Bool) → Nat → Bool
  | .send _, _ => fun _ => true
  | .addReceiver r, news => Function.update news r false
  | .copyReceiver r copy, news => Function.update news copy (news r)
  | .look r, news => Function.update news r false
  | _, news => news

/-- The act wakes a receiver, when there are as many senders as given. -/
def Wakes (r : Nat) : ChannelAct → Nat → Prop
  | .send _, _ => True
  | .dropSender, senders => senders = 1
  | .look r', _ => r' = r
  | _, _ => False

end ChannelAct

/-- A channel that keeps a flag; `κ` are its states. -/
structure WatchChannel (κ : Type) where
  /-- A channel with one sender and no receiver. -/
  new : κ
  act : ChannelAct → κ → κ
  flag : κ → Bool
  senders : κ → Nat
  news : κ → Nat → Bool
  asleep : κ → Nat → Bool
  flag_new : flag new = false
  flag_act (a : ChannelAct) (k : κ) : flag (act a k) = a.onFlag (flag k)
  senders_new : senders new = 1
  senders_act (a : ChannelAct) (k : κ) : senders (act a k) = a.onSenders (senders k)
  news_act (a : ChannelAct) (k : κ) : news (act a k) = a.onNews (news k)
  asleep_act (a : ChannelAct) (k : κ) (r : Nat) :
    asleep (act a k) r = true → a = .sleep r ∨ asleep k r = true ∧ ¬ a.Wakes r (senders k)

/-- The books of a channel: how often something was sent, and for each receiver how much of it the
receiver has seen. -/
structure Versions where
  flag : Bool
  senders : Nat
  version : Nat
  seen : Nat → Nat
  asleep : Nat → Bool
  seen_le : ∀ r, seen r ≤ version

namespace Versions

def new : Versions := ⟨false, 1, 0, fun _ => 0, fun _ => false, fun _ => Nat.le_refl 0⟩

/-- The books when a receiver is noted to have seen a version. -/
def note (v : Versions) (r version : Nat) (h : version ≤ v.version) : Versions :=
  { v with
    seen := Function.update v.seen r version
    seen_le := fun r' => by
      by_cases hr : r' = r
      · simpa [hr] using h
      · simpa [hr] using v.seen_le r' }

def act : ChannelAct → Versions → Versions
  | .send flag, v =>
    { v with
      flag := flag
      version := v.version + 1
      asleep := fun _ => false
      seen_le := fun r => Nat.le_succ_of_le (v.seen_le r) }
  | .addSender, v => { v with senders := v.senders + 1 }
  | .dropSender, v =>
    { v with
      senders := v.senders - 1
      asleep := if v.senders = 1 then fun _ => false else v.asleep }
  | .addReceiver r, v => v.note r v.version (Nat.le_refl _)
  | .copyReceiver r copy, v => v.note copy (v.seen r) (v.seen_le r)
  | .dropReceiver _, v => v
  | .look r, v =>
    { v.note r v.version (Nat.le_refl _) with asleep := Function.update v.asleep r false }
  | .sleep r, v => { v with asleep := Function.update v.asleep r true }

/-- Whether a receiver has not seen all that was sent. -/
def news (v : Versions) (r : Nat) : Bool := decide (v.seen r < v.version)

theorem news_note (v : Versions) (r version : Nat) (h : version ≤ v.version) :
    (v.note r version h).news = Function.update v.news r (decide (version < v.version)) := by
  funext r'
  by_cases hr : r' = r <;> simp [news, note, hr]

theorem news_act (a : ChannelAct) (v : Versions) : (v.act a).news = a.onNews v.news := by
  cases a with
  | send flag =>
      funext r
      have hle := v.seen_le r
      exact decide_eq_true (Nat.lt_succ_of_le hle)
  | addSender => rfl
  | dropSender => rfl
  | addReceiver r => simp [act, news_note, ChannelAct.onNews]
  | copyReceiver r copy => exact news_note v copy (v.seen r) (v.seen_le r)
  | dropReceiver r => rfl
  | look r =>
      show (v.note r v.version (Nat.le_refl _)).news = _
      simp [news_note, ChannelAct.onNews]
  | sleep r => rfl

theorem asleep_act
    (a : ChannelAct) (v : Versions) (r : Nat) (h : (v.act a).asleep r = true) :
    a = .sleep r ∨ v.asleep r = true ∧ ¬ a.Wakes r v.senders := by
  cases a with
  | send flag => cases h
  | addSender => exact .inr ⟨h, id⟩
  | dropSender =>
      by_cases hlast : v.senders = 1
      · simp [act, hlast] at h
      · simp only [act, hlast, if_false] at h
        exact .inr ⟨h, hlast⟩
  | addReceiver r' => exact .inr ⟨h, id⟩
  | copyReceiver r' copy => exact .inr ⟨h, id⟩
  | dropReceiver r' => exact .inr ⟨h, id⟩
  | look r' =>
      by_cases hr : r = r'
      · simp [act, hr] at h
      · simp only [act, Function.update_of_ne hr] at h
        exact .inr ⟨h, Ne.symm hr⟩
  | sleep r' =>
      by_cases hr : r = r'
      · exact .inl (hr ▸ rfl)
      · simp only [act, Function.update_of_ne hr] at h
        exact .inr ⟨h, id⟩

end Versions

/-- The channel that numbers what is sent. -/
def WatchChannel.versioned : WatchChannel Versions where
  new := .new
  act := Versions.act
  flag := Versions.flag
  senders := Versions.senders
  news := Versions.news
  asleep := Versions.asleep
  flag_new := rfl
  flag_act a v := by cases a <;> rfl
  senders_new := rfl
  senders_act a v := by cases a <;> rfl
  news_act := Versions.news_act
  asleep_act := Versions.asleep_act

end WalletEvents
