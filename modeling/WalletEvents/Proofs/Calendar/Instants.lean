import WalletEvents.Proofs.Calendar.Counting
import WalletEvents.Proofs.Calendar.Notation

/-!
# Instants in whole seconds

An instant is written in universal time without its fraction.

**Results.** `Instant.read?_wholeSecondText`: what is written is read as the instant
that is shown, which is the same or less than a second before. The text is a timestamp
as long as the year has four digits: `Instant.isTimestamp_wholeSecondText_iff`.

**Leap seconds.** At the end of a minute a leap second is shown as such. Elsewhere, where
no clock has one, it is shown as the next second.
-/

namespace WalletEvents

/-- A day and a time of the day in universal time, with four digits of the year and two of each other
number. -/
def IsTimestamp (text : String) : Prop :=
  ∃ year month day hour minute second : Nat, year ≤ 9999 ∧ 1 ≤ month ∧ month ≤ 12 ∧ 1 ≤ day ∧
    day ≤ daysInMonth year month ∧ hour < 24 ∧ minute < 60 ∧ second ≤ 60 ∧
    text = padded 4 year ++ "-" ++ padded 2 month ++ "-" ++ padded 2 day ++ "T" ++ padded 2 hour ++
      ":" ++ padded 2 minute ++ ":" ++ padded 2 second ++ "+00:00"

namespace Instant

variable {t : Instant}

/-- The nanoseconds since the beginning of 1970. -/
def count (t : Instant) : Int := t.second * 1000000000 + t.nano

/-- The year in universal time. -/
def year (t : Instant) : Int := (civilOfDay (t.second / 86400)).1

/-- The instant that is shown in whole seconds. -/
def shown (t : Instant) : Instant :=
  if NanoFits (t.second % 86400).toNat t.nano then ⟨t.second, t.nano / 1000000000 * 1000000000⟩
  else ⟨t.second + 1, 0⟩

/-- The calendar has the second of the instant, whose nanoseconds are less than those of two seconds. -/
structure IsValid (t : Instant) : Prop where
  inCalendar : InCalendar t.second
  nano : t.nano < 2000000000

theorem count_shown (h : t.IsValid) :
    t.shown.count ≤ t.count ∧ t.count < t.shown.count + 1000000000 := by
  have hnano := h.nano
  unfold shown count
  split
  · dsimp only
    omega
  · next hnot =>
    unfold NanoFits at hnot
    dsimp only
    omega

theorem not_lt_shown (hfits : NanoFits (t.second % 86400).toNat t.nano) :
    t.lt t.shown = false := by
  have hwhole : ¬ t.nano < t.nano / 1000000000 * 1000000000 := by
    omega
  simp [lt, shown, hfits, hwhole]

theorem shown_fits (h : t.IsValid) :
    t.shown.nano % 1000000000 = 0 ∧ InCalendar t.shown.second ∧
      NanoFits (t.shown.second % 86400).toNat t.shown.nano := by
  have ⟨⟨hfirst, hlast⟩, hnano⟩ := h
  unfold shown
  split
  · next hfits =>
    unfold NanoFits at hfits ⊢
    exact ⟨Nat.mul_mod_left _ _, h.inCalendar, by dsimp only; omega⟩
  · next hnot =>
    unfold NanoFits at hnot ⊢
    refine ⟨Nat.zero_mod _, ⟨?_, ?_⟩, .inl (Nat.zero_lt_succ _)⟩
    · exact hfirst.trans (by dsimp only; omega)
    · dsimp only
      omega

theorem secondText_shown (h : t.IsValid) :
    t.shown.secondText = t.secondText := by
  have hnano := h.nano
  unfold shown
  split
  · next hfits =>
    have hleap : 1000000000 ≤ t.nano / 1000000000 * 1000000000 ↔ 1000000000 ≤ t.nano := by
      omega
    simp only [secondText, writeTime, hleap]
  · next hnot =>
    unfold NanoFits at hnot
    obtain ⟨s, hs⟩ : ∃ s, s = (t.second % 86400).toNat := ⟨_, rfl⟩
    have hday : (t.second + 1) / 86400 = t.second / 86400 := by
      omega
    have hnext : ((t.second + 1) % 86400).toNat = s + 1 := by
      omega
    have hhour : (s + 1) / 3600 = s / 3600 := by
      omega
    have hminute : (s + 1) / 60 = s / 60 := by
      omega
    have hsecond : (s + 1) % 60 + 0 = s % 60 + 1 := by
      omega
    simp only [secondText, writeTime, hday, hnext, hhour, hminute, ← hs]
    rw [if_neg (by decide), if_pos (by omega), hsecond]

theorem exists_date_of_inCalendar (h : InCalendar t.second) :
    ∃ date : Date, civilOfDay (t.second / 86400) = (date.year, date.month, date.day) ∧
      date.number = t.second / 86400 := by
  obtain ⟨hfirst, hlast⟩ := h
  exact exists_date (by omega) (by omega)

theorem readOffset?_zero :
    Moment.readOffset? "+00:00".toList = some (0, []) := by
  have hdigits := @Moment.offsetDigits?_padded 0 0 (by decide) (by decide)
  have htext : "+00:00".toList =
      '+' :: ((padded 2 0).toList ++ ':' :: (padded 2 0).toList) := by
    decide
  rw [htext, Moment.readOffset?, dropBlanks_cons _ (by decide)]
  exact hdigits

/-- What is written in whole seconds is read back. -/
theorem read?_of_whole
    (hwhole : t.nano % 1000000000 = 0) (hin : InCalendar t.second)
    (hfits : NanoFits (t.second % 86400).toNat t.nano) :
    ∃ m, Moment.read? t.wholeSecondText = some m ∧ m.instant = t := by
  obtain ⟨date, hcivil, hnumber⟩ := exists_date_of_inCalendar hin
  have hsecond : (t.second % 86400).toNat < 86400 := by
    omega
  have hinstant : universalSecond date.number (t.second % 86400).toNat 0 = t.second := by
    rw [hnumber, universalSecond]
    omega
  have hvalid : (t.second % 86400).toNat < 86400 ∧ NanoFits (t.second % 86400).toNat t.nano ∧
      -1440 < (0 : Int) ∧ (0 : Int) < 1440 ∧
      InCalendar (universalSecond date.number (t.second % 86400).toNat 0) :=
    ⟨hsecond, hfits, by decide, by decide, by rwa [hinstant]⟩
  have hparts : Moment.ofParts? date (t.second % 86400).toNat t.nano 0 =
      some ⟨date, (t.second % 86400).toNat, t.nano, 0, hvalid⟩ :=
    dif_pos hvalid
  have hfraction : writeFraction t.nano = "" := if_pos hwhole
  have htext : t.wholeSecondText.toList =
      (writeDate date.year date.month date.day).toList ++ 'T' ::
        ((writeTime (t.second % 86400).toNat t.nano).toList ++
          ((writeFraction t.nano).toList ++ "+00:00".toList)) := by
    simp [wholeSecondText, secondText, hcivil, hfraction]
  have htime := @Moment.readTime?_writeTime "+00:00".toList _ _ hsecond hfits
    (endsDigits_cons _ (by decide)) (by simp)
  refine ⟨⟨date, (t.second % 86400).toNat, t.nano, 0, hvalid⟩, ?_, ?_⟩
  · rw [Moment.read?, htext, Moment.readDate?_writeDate date (endsDigits_cons _ (by decide))]
    simp only [Option.bind_eq_bind, Option.bind_some, true_or, if_true, htime, readOffset?_zero]
    exact hparts
  · rw [Moment.instant, hinstant]

/-- **An instant in whole seconds is read as the one that is shown.** -/
theorem read?_wholeSecondText (h : t.IsValid) :
    ∃ m, Moment.read? t.wholeSecondText = some m ∧ m.instant = t.shown := by
  obtain ⟨hwhole, hin, hfits⟩ := shown_fits h
  have hsame : t.shown.wholeSecondText = t.wholeSecondText := by
    rw [wholeSecondText, secondText_shown h, wholeSecondText]
  rw [← hsame]
  exact read?_of_whole hwhole hin hfits

/-- **An instant is a timestamp if its year has four digits.** -/
theorem isTimestamp_wholeSecondText_iff (h : t.IsValid) :
    IsTimestamp t.wholeSecondText ↔ 0 ≤ t.year ∧ t.year ≤ 9999 := by
  obtain ⟨date, hcivil, -⟩ := exists_date_of_inCalendar h.inCalendar
  have hyear : t.year = date.year := by
    rw [year, hcivil]
  obtain ⟨s, hs⟩ : ∃ s, s = (t.second % 86400).toNat := ⟨_, rfl⟩
  have htext : t.wholeSecondText = Moment.yearText date.year ++ "-" ++ padded 2 date.month ++ "-" ++
      padded 2 date.day ++ "T" ++ padded 2 (s / 3600) ++ ":" ++ padded 2 (s / 60 % 60) ++ ":" ++
      padded 2 (s % 60 + if 1000000000 ≤ t.nano then 1 else 0) ++ "+00:00" := by
    simp [wholeSecondText, secondText, hcivil, writeDate, writeTime, Moment.yearText, hs,
      String.append_assoc]
  rw [hyear]
  constructor
  · rintro ⟨year, month, day, hour, minute, second, -, -, -, -, -, -, -, -, hshape⟩
    obtain ⟨c, digits, hcons, hc⟩ := padded_eq_cons 4 year
    have hfirst : t.wholeSecondText.toList.head? = some c := by
      simp [hshape, hcons]
    by_contra hsigned
    rw [htext, Moment.yearText, if_neg hsigned] at hfirst
    split at hfirst
    all_goals
      simp at hfirst
      rw [← hfirst] at hc
      exact absurd hc (by decide)
  · rintro ⟨hpositive, hfour⟩
    obtain ⟨-, -, hmonth, htwelve, hday, hfits⟩ := date.exists_
    have hnat : ((date.year.toNat : Nat) : Int) = date.year := Int.toNat_of_nonneg hpositive
    refine ⟨date.year.toNat, date.month, date.day, s / 3600, s / 60 % 60,
      s % 60 + if 1000000000 ≤ t.nano then 1 else 0, by omega, hmonth, htwelve, hday, ?_, by omega,
      by omega, ?_, ?_⟩
    · rwa [hnat]
    · split <;> omega
    · rw [htext, Moment.yearText, if_pos ⟨hpositive, hfour⟩]

end Instant

end WalletEvents
