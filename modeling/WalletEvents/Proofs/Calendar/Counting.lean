import WalletEvents.Calendar.Moment
import Mathlib.Tactic.IntervalCases

/-!
# Days and their numbers

Dates and instants count days in two ways: `dayNumber` goes from the name of a day to
its number and `civilOfDay` from the number to the name. Both work in eras of 400 years
that begin in March.

**Result.** `exists_date`: the name that `civilOfDay` finds is that of a day of the
calendar, and the day has the number that was looked for. So it is for every number
between those of the first day and the last one.
-/

namespace WalletEvents

/-- The days before a year that begins in March, from the year 0 on. -/
def daysBeforeYear (year : Int) : Int := 365 * year + year / 4 - year / 100 + year / 400

theorem daysBeforeYear_lt {year later : Int} (h : year < later) :
    daysBeforeYear year + 365 ≤ daysBeforeYear later := by
  have hhundred : ∀ y : Int, y / 100 = y / 4 / 25 := by omega
  have hfour : year / 4 ≤ later / 4 := by omega
  have hfourHundred : year / 400 ≤ later / 400 := by omega
  unfold daysBeforeYear
  rw [hhundred year, hhundred later]
  omega

theorem daysBeforeYear_mono {year later : Int} (h : year ≤ later) :
    daysBeforeYear year ≤ daysBeforeYear later := by
  rcases Int.lt_or_eq_of_le h with hlt | rfl
  · have := daysBeforeYear_lt hlt
    omega
  · exact Int.le_refl _

/-- The year within its era. -/
theorem daysBeforeYear_era {y : Nat} (hy : y < 400) (era : Int) :
    daysBeforeYear (y + era * 400) = era * 146097 + (365 * y + y / 4 - y / 100 : Nat) := by
  have hfour : ((y : Int) + era * 400) / 4 = y / 4 + era * 100 := by omega
  have hhundred : ((y : Int) + era * 400) / 100 = y / 100 + era * 4 := by omega
  have hfourHundred : ((y : Int) + era * 400) / 400 = era := by omega
  rw [daysBeforeYear, hfour, hhundred, hfourHundred]
  omega

theorem isLeapYear_of_mod
    {year : Int} (hfour : year % 4 = 0) (hhundred : year % 100 ≠ 0 ∨ year % 400 = 0) :
    isLeapYear year = true := by
  simp only [isLeapYear, hfour, beq_self_eq_true, Bool.true_and, Bool.or_eq_true, bne_iff_ne,
    beq_iff_eq]
  exact hhundred

/-- A day of an era is in a century, there in a cycle of four years, and there at a place. Only the last
cycle of a century may lack its last day, which the last century has. -/
theorem exists_eraParts {d : Nat} (h : d < 146097) :
    ∃ c q s, c ≤ 3 ∧ q ≤ 24 ∧ s ≤ 1460 ∧ 36524 * c + 1461 * q + s = d ∧
      (q = 24 → s = 1460 → c = 3) := by
  by_cases hlast : d = 146096
  · exact ⟨3, 24, 1460, by omega⟩
  · exact ⟨d / 36524, d % 36524 / 1461, d % 36524 % 1461, by omega⟩

theorem yearOfEra_eq
    {c q s : Nat} (hc : c ≤ 3) (hq : q ≤ 24) (hs : s ≤ 1460) (hlast : q = 24 → s = 1460 → c = 3) :
    let d := 36524 * c + 1461 * q + s
    (d - d / 1460 + d / 36524 - d / 146096) / 365 = 100 * c + 4 * q + min 3 (s / 365) := by
  intro d
  have hcycles : d / 1460 = 25 * c + q + if 1460 ≤ 24 * c + q + s then 1 else 0 := by
    split <;> omega
  have hcenturies : d / 36524 = c + d / 146096 := by
    by_cases hend : d = 146096
    · omega
    · have hwithin : 1461 * q + s < 36524 := by omega
      have hnone : d / 146096 = 0 := by omega
      have hcentury : d / 36524 = c := by omega
      omega
  split at hcycles <;> omega

/-- The day lies in the year that is found, which has a last day of its own only if it is followed by a leap
day. -/
theorem yearOfEra_spec {d : Nat} (h : d < 146097) :
    let y := (d - d / 1460 + d / 36524 - d / 146096) / 365
    let n := d - (365 * y + y / 4 - y / 100)
    y < 400 ∧ 365 * y + y / 4 - y / 100 + n = d ∧ n ≤ 365 ∧
      (n = 365 → (y + 1) % 4 = 0 ∧ ((y + 1) % 100 ≠ 0 ∨ (y + 1) % 400 = 0)) := by
  obtain ⟨c, q, s, hc, hq, hs, rfl, hlast⟩ := exists_eraParts h
  intro y n
  obtain ⟨k, hk⟩ : ∃ k, k = min 3 (s / 365) := ⟨_, rfl⟩
  have hyear : k ≤ 3 ∧ 365 * k ≤ s ∧ s ≤ 365 * k + 365 ∧ (s = 365 * k + 365 → k = 3) := by
    omega
  have hy : y = 100 * c + 4 * q + k := hk ▸ yearOfEra_eq hc hq hs hlast
  clear_value y
  have hfour : y / 4 = 25 * c + q := by omega
  have hhundred : y / 100 = c := by omega
  have hn : n = s - 365 * k := by
    simp only [n, hfour, hhundred]
    omega
  clear_value n
  rw [hfour, hhundred]
  refine ⟨by omega, by omega, by omega, fun hleap => ⟨by omega, ?_⟩⟩
  by_cases hcycle : q = 24
  · right
    omega
  · left
    omega

theorem daysInMonth_le (year : Int) (month : Nat) :
    daysInMonth year month ≤ 31 := by
  unfold daysInMonth
  split
  · split <;> decide
  all_goals decide

/-- The month from March and the day in it, of a day of a year that begins in March. -/
theorem monthOfYear_spec
    {n : Nat} (h : n ≤ 365) (year : Int) (hleap : n = 365 → isLeapYear (year + 1) = true) :
    let fromMarch := (5 * n + 2) / 153
    let day := n - (153 * fromMarch + 2) / 5 + 1
    let month := if fromMarch < 10 then fromMarch + 3 else fromMarch - 9
    1 ≤ month ∧ month ≤ 12 ∧ (month + 9) % 12 = fromMarch ∧ 1 ≤ day ∧
      (153 * fromMarch + 2) / 5 + day = n + 1 ∧
      day ≤ daysInMonth (if month ≤ 2 then year + 1 else year) month := by
  intro fromMarch day month
  have hmost : fromMarch ≤ 11 := by omega
  have hfirst : (153 * fromMarch + 2) / 5 ≤ n := by omega
  have hnext : n < (153 * (fromMarch + 1) + 2) / 5 := by omega
  have hsum : (153 * fromMarch + 2) / 5 + day = n + 1 := by omega
  have hmonth : month = if fromMarch < 10 then fromMarch + 3 else fromMarch - 9 := rfl
  clear_value day month fromMarch
  subst hmonth
  interval_cases fromMarch
  case «11» =>
    refine ⟨by decide, by decide, by decide, by omega, hsum, ?_⟩
    change day ≤ if isLeapYear (year + 1) then 29 else 28
    split
    · omega
    · next hcommon =>
      have hnotLast : n ≠ 365 := fun hlast => hcommon (hleap hlast)
      omega
  all_goals
    simp only [daysInMonth] at *
    simp at *
    omega

theorem dayNumber_eq (year : Int) (month day : Nat) :
    dayNumber year month day = daysBeforeYear (if month ≤ 2 then year - 1 else year) +
      (((153 * ((month + 9) % 12) + 2) / 5 + day : Nat) : Int) - 719469 := by
  unfold dayNumber daysBeforeYear
  dsimp only
  generalize (if month ≤ 2 then year - 1 else year) = shifted
  generalize (((153 * ((month + 9) % 12) + 2) / 5 + day : Nat) : Int) = n
  have hera : shifted - shifted / 400 * 400 = shifted % 400 := by omega
  rw [hera]
  omega

/-- The name of a number is the name of a day with this number. -/
theorem civilOfDay_spec (number : Int) :
    ∃ year month day, civilOfDay number = (year, month, day) ∧ 1 ≤ month ∧ month ≤ 12 ∧
      1 ≤ day ∧ day ≤ daysInMonth year month ∧ dayNumber year month day = number := by
  obtain ⟨era, hera⟩ : ∃ era, era = (number + 719468) / 146097 := ⟨_, rfl⟩
  obtain ⟨d, hd⟩ : ∃ d, d = (number + 719468 - era * 146097).toNat := ⟨_, rfl⟩
  have hwithin : d < 146097 := by omega
  have hnumber : number = era * 146097 + d - 719468 := by omega
  obtain ⟨hyear, hdays, hday, hleap⟩ := yearOfEra_spec hwithin
  obtain ⟨y, hy⟩ : ∃ y, y = (d - d / 1460 + d / 36524 - d / 146096) / 365 := ⟨_, rfl⟩
  rw [← hy] at hyear hdays hday hleap
  obtain ⟨n, hn⟩ : ∃ n, n = d - (365 * y + y / 4 - y / 100) := ⟨_, rfl⟩
  rw [← hn] at hdays hday hleap
  obtain ⟨hfirst, htwelve, hback, hpos, hsum, hfits⟩ :=
    monthOfYear_spec hday (y + era * 400) fun hlast => by
      obtain ⟨hfour, hhundred⟩ := hleap hlast
      exact isLeapYear_of_mod (by omega) (by omega)
  have hshifted : ∀ p : Prop, [Decidable p] →
      (if p then (if p then (y : Int) + era * 400 + 1 else y + era * 400) - 1
        else if p then (y : Int) + era * 400 + 1 else y + era * 400) = y + era * 400 := by
    intro p _
    split
    · omega
    · rfl
  refine ⟨_, _, _, ?_, hfirst, htwelve, hpos, hfits, ?_⟩
  · simp only [civilOfDay]
    rw [← hera, ← hd, ← hy, ← hn]
  · rw [dayNumber_eq, hback, hsum, hshifted, daysBeforeYear_era hyear]
    omega

/-- The number of a day tells of its year. -/
theorem year_of_dayNumber
    {year : Int} {month day : Nat} (hmonth : 1 ≤ month) (htwelve : month ≤ 12) (hday : 1 ≤ day)
    (hfits : day ≤ 31) (hfirst : dayNumber firstYear 1 1 ≤ dayNumber year month day)
    (hlast : dayNumber year month day ≤ dayNumber lastYear 12 31) :
    firstYear ≤ year ∧ year ≤ lastYear := by
  rw [dayNumber_eq, dayNumber_eq] at hfirst hlast
  constructor
  · by_contra hbefore
    have hyears : daysBeforeYear year ≤ daysBeforeYear (firstYear - 1) :=
      daysBeforeYear_mono (by omega)
    have hprevious : daysBeforeYear (year - 1) + 365 ≤ daysBeforeYear (firstYear - 1) :=
      daysBeforeYear_lt (by omega)
    interval_cases month <;> simp at hfirst <;> omega
  · by_contra hafter
    have hyears : daysBeforeYear lastYear + 365 ≤ daysBeforeYear year :=
      daysBeforeYear_lt (by omega)
    have hnext : daysBeforeYear lastYear ≤ daysBeforeYear (year - 1) :=
      daysBeforeYear_mono (by omega)
    interval_cases month <;> simp at hlast <;> omega

/-- **Every number has its day**: one of the calendar, if the number is not out of it. -/
theorem exists_date
    {number : Int} (hfirst : dayNumber firstYear 1 1 ≤ number)
    (hlast : number ≤ dayNumber lastYear 12 31) :
    ∃ date : Date, civilOfDay number = (date.year, date.month, date.day) ∧
      date.number = number := by
  obtain ⟨year, month, day, hcivil, hmonth, htwelve, hday, hfits, rfl⟩ := civilOfDay_spec number
  have hyear := year_of_dayNumber hmonth htwelve hday (hfits.trans (daysInMonth_le year month))
    hfirst hlast
  exact ⟨⟨year, month, day, hyear.1, hyear.2, hmonth, htwelve, hday, hfits⟩, hcivil, rfl⟩

end WalletEvents
