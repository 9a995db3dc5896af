import WalletEvents.Calendar.Date

/-!
# Moments and instants

A moment is a day and a time of day at a place whose clocks are a number of whole minutes ahead of
universal time. Its instant is the same point of time without the place.

A leap second is the second before it with a thousand million nanoseconds or more, so instants are
ordered as pairs of a second and its nanoseconds.
-/

namespace WalletEvents

/-- A point of time in universal time: seconds from the beginning of 1970, and nanoseconds. -/
structure Instant where
  second : Int
  nano : Nat
  deriving DecidableEq, Repr

namespace Instant

/-- The order of time. -/
def lt (a b : Instant) : Bool :=
  decide (a.second < b.second) || (decide (a.second = b.second) && decide (a.nano < b.nano))

end Instant

/-- Whether the nanoseconds fit the second of the day; a leap second only ends a minute. -/
def NanoFits (second nano : Nat) : Prop :=
  nano < 1000000000 ∨ (nano < 2000000000 ∧ second % 60 = 59)

instance (second nano : Nat) : Decidable (NanoFits second nano) :=
  inferInstanceAs (Decidable (_ ∨ _))

/-- The second in universal time of a local second of a day. -/
def universalSecond (day : Int) (second : Nat) (offset : Int) : Int :=
  day * 86400 + second - offset * 60

/-- The seconds of the calendar in universal time. -/
def InCalendar (second : Int) : Prop :=
  dayNumber firstYear 1 1 * 86400 ≤ second ∧ second < (dayNumber lastYear 12 31 + 1) * 86400

instance (second : Int) : Decidable (InCalendar second) :=
  inferInstanceAs (Decidable (_ ∧ _))

/-- A local time of a day, with the minutes by which local time is ahead of universal time. -/
structure Moment where
  date : Date
  second : Nat
  nano : Nat
  offset : Int
  valid : second < 86400 ∧ NanoFits second nano ∧ -1440 < offset ∧ offset < 1440 ∧
    InCalendar (universalSecond date.number second offset)
  deriving DecidableEq

namespace Moment

/-- The moment with these parts, if there is one. -/
def ofParts? (date : Date) (second nano : Nat) (offset : Int) : Option Moment :=
  if h : second < 86400 ∧ NanoFits second nano ∧ -1440 < offset ∧ offset < 1440 ∧
      InCalendar (universalSecond date.number second offset) then
    some ⟨date, second, nano, offset, h⟩
  else
    none

/-- The point of time of a moment. -/
def instant (m : Moment) : Instant := ⟨universalSecond m.date.number m.second m.offset, m.nano⟩

end Moment

end WalletEvents
