import WalletEvents.Double.Shortest
import Mathlib.Tactic

/-!
# Shortest digits tell doubles apart

The shortest decimal of a double lies in the interval of numbers that name it.
The intervals of different doubles have no number in common: where they touch,
the common end belongs to neither or to one of them only, since of two
neighbouring significands one is odd.

**Search.** The search for the coarsest grid with a point in the interval looks
at 24 grids. `Double.exists_gridPoint` says that the finest of them always has a
point, because its step is at most a quarter of the last place.
-/

namespace WalletEvents

/-- The number that a decimal stands for. -/
def Decimal.value (d : Decimal) : ℚ := d.digits * 10 ^ d.power

namespace Double

/-- A quarter of the last place of a double. -/
def quarter (d : Double) : ℚ := 2 ^ (d.exponent - 2)

/-- The number lies in the interval of a double, whose ends belong to it when its significand is even. -/
def NamedBy (d : Double) (x : ℚ) : Prop :=
  if d.mantissa % 2 = 0 then
    d.quarters.1 * d.quarter ≤ x ∧ x ≤ d.quarters.2.2 * d.quarter
  else
    d.quarters.1 * d.quarter < x ∧ x < d.quarters.2.2 * d.quarter

theorem quarter_pos (d : Double) :
    0 < d.quarter := by
  unfold quarter
  positivity

/-- A power with a whole exponent as a quotient of powers with natural exponents. -/
theorem zpow_eq_div (a : ℚ) (z : ℤ) :
    a ^ z = a ^ z.toNat / a ^ (-z).toNat := by
  rcases Int.le_total 0 z with hz | hz
  · obtain ⟨n, rfl⟩ := Int.eq_ofNat_of_zero_le hz
    simp
  · obtain ⟨n, hn⟩ := Int.eq_ofNat_of_zero_le (Int.neg_nonneg_of_nonpos hz)
    obtain rfl : z = -(n : ℤ) := by omega
    simp

section Grid

variable (d : Double) (k : ℤ)

/-- The numerator of a quarter in steps of a grid. -/
def gridNum : ℕ := 2 ^ (d.exponent - 2).toNat * 10 ^ (-k).toNat

/-- The denominator of a quarter in steps of a grid. -/
def gridDen : ℕ := 2 ^ (2 - d.exponent).toNat * 10 ^ k.toNat

theorem gridDen_pos :
    0 < d.gridDen k := by
  unfold gridDen
  positivity

theorem quarter_eq_steps :
    d.quarter = (d.gridNum k : ℚ) / d.gridDen k * 10 ^ k := by
  unfold quarter gridNum gridDen
  rw [zpow_eq_div 2 (d.exponent - 2), zpow_eq_div 10 k]
  rw [show -(d.exponent - 2) = 2 - d.exponent by ring]
  push_cast
  field_simp

theorem steps_le_iff (x y : ℕ) :
    x * d.gridNum k ≤ y * d.gridDen k ↔ (x : ℚ) * d.quarter ≤ y * 10 ^ k := by
  have hden : (0 : ℚ) < d.gridDen k := by exact_mod_cast d.gridDen_pos k
  have hten : (0 : ℚ) < 10 ^ k := by positivity
  rw [quarter_eq_steps d k, ← mul_assoc, mul_le_mul_iff_left₀ hten, ← mul_div_assoc,
    div_le_iff₀ hden]
  exact_mod_cast Iff.rfl

theorem le_steps_iff (x y : ℕ) :
    y * d.gridDen k ≤ x * d.gridNum k ↔ (y : ℚ) * 10 ^ k ≤ x * d.quarter := by
  have hden : (0 : ℚ) < d.gridDen k := by exact_mod_cast d.gridDen_pos k
  have hten : (0 : ℚ) < 10 ^ k := by positivity
  rw [quarter_eq_steps d k, ← mul_assoc, mul_le_mul_iff_left₀ hten, ← mul_div_assoc,
    le_div_iff₀ hden]
  exact_mod_cast Iff.rfl

/-- The test of a point in the search. -/
def names (p : ℕ) : Bool :=
  if d.mantissa % 2 = 0 then
    decide (d.quarters.1 * d.gridNum k ≤ p * d.gridDen k ∧
      p * d.gridDen k ≤ d.quarters.2.2 * d.gridNum k)
  else
    decide (d.quarters.1 * d.gridNum k < p * d.gridDen k ∧
      p * d.gridDen k < d.quarters.2.2 * d.gridNum k)

theorem names_iff (p : ℕ) :
    d.names k p = true ↔ d.NamedBy (p * 10 ^ k) := by
  unfold names NamedBy
  split
  · rw [decide_eq_true_iff, steps_le_iff, le_steps_iff]
  · rw [decide_eq_true_iff, ← not_le, ← not_le, le_steps_iff, steps_le_iff, not_le, not_le]

/-- The largest point of a grid that is not above the double. -/
def gridFloor : ℕ := d.quarters.2.1 * d.gridNum k / d.gridDen k

theorem gridFloor_le :
    (d.gridFloor k : ℚ) * 10 ^ k ≤ d.quarters.2.1 * d.quarter := by
  rw [← le_steps_iff]
  exact Nat.div_mul_le_self _ _

theorem lt_gridFloor_succ :
    (d.quarters.2.1 : ℚ) * d.quarter < (d.gridFloor k + 1) * 10 ^ k := by
  have h : d.quarters.2.1 * d.gridNum k < (d.gridFloor k + 1) * d.gridDen k := by
    rw [Nat.mul_comm (d.gridFloor k + 1)]
    exact Nat.lt_mul_div_succ _ (d.gridDen_pos k)
  have h' := mt (le_steps_iff d k _ _).mpr (not_le.mpr h)
  push_cast at h'
  exact not_le.mp h'

/-- The search on one grid looks at the two points next to the double. -/
theorem gridPoint?_eq :
    d.gridPoint? k =
      match d.names k (d.gridFloor k), d.names k (d.gridFloor k + 1) with
      | true, true =>
          if 2 * (d.quarters.2.1 * d.gridNum k % d.gridDen k) < d.gridDen k then
            some (d.gridFloor k)
          else if d.gridDen k < 2 * (d.quarters.2.1 * d.gridNum k % d.gridDen k) then
            some (d.gridFloor k + 1)
          else some (d.gridFloor k + d.gridFloor k % 2)
      | true, false => some (d.gridFloor k)
      | false, true => some (d.gridFloor k + 1)
      | false, false => none := rfl

variable {d k}

/-- A point that the search finds on a grid names the double. -/
theorem namedBy_of_gridPoint
    {p : ℕ} (h : d.gridPoint? k = some p) :
    d.NamedBy (p * 10 ^ k) := by
  rw [gridPoint?_eq] at h
  rw [← names_iff]
  cases hfloor : d.names k (d.gridFloor k) with
  | false =>
      cases hnext : d.names k (d.gridFloor k + 1) with
      | false => simp [hfloor, hnext] at h
      | true =>
          obtain rfl : d.gridFloor k + 1 = p := by simpa [hfloor, hnext] using h
          exact hnext
  | true =>
      cases hnext : d.names k (d.gridFloor k + 1) with
      | false =>
          obtain rfl : d.gridFloor k = p := by simpa [hfloor, hnext] using h
          exact hfloor
      | true =>
          have hp : p = d.gridFloor k ∨ p = d.gridFloor k + 1 := by
            simp only [hfloor, hnext] at h
            split_ifs at h <;> simp only [Option.some.injEq] at h <;> omega
          rcases hp with rfl | rfl
          · exact hfloor
          · exact hnext

/-- A grid whose step is at most a quarter of the last place has a point that names the double. -/
theorem exists_gridPoint
    (hpos : 0 < d.mantissa) (hstep : (10 : ℚ) ^ k ≤ d.quarter) :
    ∃ p, d.gridPoint? k = some p := by
  have hvalue : d.quarters.2.1 = 4 * d.mantissa := rfl
  have hlow : (d.quarters.1 : ℚ) + 1 ≤ d.quarters.2.1 := by
    have h : d.quarters.1 + 1 ≤ d.quarters.2.1 := by
      simp only [quarters]
      split <;> omega
    exact_mod_cast h
  have hhigh : (d.quarters.2.2 : ℚ) = d.quarters.2.1 + 2 := by
    simp only [quarters]
    push_cast
    ring
  have hfloor := d.gridFloor_le k
  have hnext := d.lt_gridFloor_succ k
  have hq := d.quarter_pos
  have habove : d.quarters.1 * d.quarter < d.gridFloor k * 10 ^ k := by nlinarith
  have hbelow : (d.gridFloor k : ℚ) * 10 ^ k < d.quarters.2.2 * d.quarter := by
    rw [hhigh]
    nlinarith
  have hnamed : d.names k (d.gridFloor k) = true := by
    rw [names_iff]
    unfold NamedBy
    split
    · exact ⟨habove.le, hbelow.le⟩
    · exact ⟨habove, hbelow⟩
  rw [gridPoint?_eq, hnamed]
  cases d.names k (d.gridFloor k + 1) with
  | false => exact ⟨_, rfl⟩
  | true =>
      dsimp only
      split_ifs
      · exact ⟨_, rfl⟩
      · exact ⟨_, rfl⟩
      · exact ⟨_, rfl⟩

end Grid

/-- The search gives a point of one of its grids, if the last of them has one. -/
theorem namedBy_searchGrids
    {d : Double} {steps : ℕ} {k : ℤ}
    (hlast : ∃ p, d.gridPoint? (k - steps) = some p) :
    d.NamedBy (d.searchGrids (steps + 1) k).value := by
  induction steps generalizing k with
  | zero =>
      obtain ⟨p, hp⟩ := hlast
      have hk : d.gridPoint? k = some p := by simpa using hp
      simp only [searchGrids, hk]
      exact namedBy_of_gridPoint hk
  | succ steps ih =>
      rw [searchGrids]
      cases hk : d.gridPoint? k with
      | some p => exact namedBy_of_gridPoint hk
      | none =>
          apply ih
          have hsame : k - 1 - (steps : ℤ) = k - (steps + 1 : ℕ) := by
            push_cast
            ring
          rw [hsame]
          exact hlast

/-- Powers of ten and of two with nonnegative exponents. -/
theorem ten_pow_le_two_pow
    {a b : ℕ} (h : 10 * a ≤ 3 * b) :
    10 ^ a ≤ 2 ^ b := by
  have hcube : (10 ^ a) ^ 3 ≤ (2 ^ b) ^ 3 :=
    calc (10 ^ a) ^ 3 = (10 ^ 3) ^ a := by rw [← pow_mul, ← pow_mul, Nat.mul_comm]
      _ ≤ (2 ^ 10) ^ a := Nat.pow_le_pow_left (by norm_num) a
      _ = 2 ^ (10 * a) := by rw [← pow_mul]
      _ ≤ 2 ^ (3 * b) := Nat.pow_le_pow_right (by norm_num) h
      _ = (2 ^ b) ^ 3 := by rw [← pow_mul, Nat.mul_comm]
  exact le_of_pow_le_pow_left₀ (by norm_num) (Nat.zero_le _) hcube

/-- Powers of two and of ten with nonnegative exponents. -/
theorem two_pow_le_ten_pow
    {a b : ℕ} (h : 25 * b ≤ 83 * a) :
    2 ^ b ≤ 10 ^ a := by
  have hpower : (2 ^ b) ^ 25 ≤ (10 ^ a) ^ 25 :=
    calc (2 ^ b) ^ 25 = 2 ^ (25 * b) := by rw [← pow_mul, Nat.mul_comm]
      _ ≤ 2 ^ (83 * a) := Nat.pow_le_pow_right (by norm_num) h
      _ = (2 ^ 83) ^ a := by rw [← pow_mul]
      _ ≤ (10 ^ 25) ^ a := Nat.pow_le_pow_left (by norm_num) a
      _ = (10 ^ a) ^ 25 := by rw [← pow_mul, ← pow_mul, Nat.mul_comm]
  exact le_of_pow_le_pow_left₀ (by norm_num) (Nat.zero_le _) hpower

/-- A power of ten is at most a power of two when its exponent is small enough for either sign. -/
theorem ten_zpow_le_two_zpow
    {a b : ℤ} (hpos : 0 ≤ a → 10 * a ≤ 3 * b) (hneg : a < 0 → b < 0 → 83 * a ≤ 25 * b) :
    (10 : ℚ) ^ a ≤ 2 ^ b := by
  rcases Int.le_total 0 a with ha | ha
  · obtain ⟨m, rfl⟩ := Int.eq_ofNat_of_zero_le ha
    obtain ⟨n, rfl⟩ := Int.eq_ofNat_of_zero_le (show 0 ≤ b by have := hpos ha; omega)
    have h := ten_pow_le_two_pow (show 10 * m ≤ 3 * n by have := hpos ha; omega)
    exact_mod_cast h
  · obtain ⟨m, hm⟩ := Int.eq_ofNat_of_zero_le (Int.neg_nonneg_of_nonpos ha)
    obtain rfl : a = -(m : ℤ) := by omega
    rcases Int.lt_or_le b 0 with hb | hb
    · obtain ⟨n, hn⟩ := Int.eq_ofNat_of_zero_le (show 0 ≤ -b by omega)
      obtain rfl : b = -(n : ℤ) := by omega
      have hmn : 25 * n ≤ 83 * m := by
        rcases Nat.eq_zero_or_pos m with rfl | hm
        · have := hpos (by simp)
          omega
        · have := hneg (by omega) hb
          omega
      have h : (2 : ℚ) ^ n ≤ 10 ^ m := by exact_mod_cast two_pow_le_ten_pow hmn
      rw [zpow_neg, zpow_neg, zpow_natCast, zpow_natCast]
      exact inv_anti₀ (by positivity) h
    · calc (10 : ℚ) ^ (-(m : ℤ)) ≤ 1 := zpow_le_one_of_nonpos₀ (by norm_num) ha
        _ ≤ 2 ^ b := one_le_zpow₀ (by norm_num) hb

/-- The shortest decimal of a double other than zero names it. -/
theorem namedBy_shortest
    {d : Double} (hpos : 0 < d.mantissa) :
    d.NamedBy d.shortest.value := by
  unfold shortest
  rw [if_neg (by omega)]
  apply namedBy_searchGrids
  apply exists_gridPoint hpos
  unfold quarter
  have hlog : d.mantissa.log2 < 53 := by
    rw [Nat.log2_lt (by omega)]
    rcases d.stored with h | h <;> omega
  rcases d.stored with h | h
  · apply ten_zpow_le_two_zpow
    · intro h'
      omega
    · intro _ _
      omega
  · apply ten_zpow_le_two_zpow
    · intro h'
      omega
    · intro _ _
      omega

theorem NamedBy.le
    {d : Double} {x : ℚ} (h : d.NamedBy x) :
    d.quarters.1 * d.quarter ≤ x ∧ x ≤ d.quarters.2.2 * d.quarter := by
  unfold NamedBy at h
  split at h
  · exact h
  · exact ⟨h.1.le, h.2.le⟩

theorem NamedBy.lt_of_odd
    {d : Double} {x : ℚ} (h : d.NamedBy x) (hodd : d.mantissa % 2 = 1) :
    d.quarters.1 * d.quarter < x ∧ x < d.quarters.2.2 * d.quarter := by
  unfold NamedBy at h
  rw [if_neg (by omega)] at h
  exact h

/-- One double is closer to zero than another one. -/
def Below (d e : Double) : Prop :=
  d.exponent < e.exponent ∨ d.exponent = e.exponent ∧ d.mantissa < e.mantissa

theorem upper_eq (d : Double) :
    d.quarters.2.2 = 4 * d.mantissa + 2 := rfl

/-- Doubles of one exponent, in quarters of the last place. -/
theorem upper_le_lower_of_mantissa_lt
    {d e : Double} (h : d.mantissa < e.mantissa) :
    d.quarters.2.2 ≤ e.quarters.1 ∧
      (d.quarters.2.2 = e.quarters.1 → d.mantissa % 2 = 1 ∨ e.mantissa % 2 = 1) := by
  have hlow : e.quarters.1 = 4 * e.mantissa - 1 ∨ e.quarters.1 = 4 * e.mantissa - 2 := by
    simp only [quarters]
    split_ifs
    · exact Or.inl rfl
    · exact Or.inr rfl
  rw [upper_eq]
  omega

/-- Doubles of different exponents, in quarters of the last place of the smaller one. -/
theorem upper_le_lower_of_exponent_lt
    {d e : Double} {n : ℕ} (h : e.exponent = d.exponent + (n + 1)) :
    d.quarters.2.2 ≤ e.quarters.1 * 2 ^ (n + 1) ∧
      (d.quarters.2.2 = e.quarters.1 * 2 ^ (n + 1) → d.mantissa % 2 = 1) := by
  have hd : d.mantissa < 2 ^ 53 := by
    rcases d.stored with hd | hd <;> omega
  have hd' : -1074 ≤ d.exponent := by
    rcases d.stored with hd | hd <;> omega
  have he : 2 ^ 52 ≤ e.mantissa := by
    rcases e.stored with he | he <;> omega
  have hlow : 2 ^ 54 - 1 ≤ e.quarters.1 := by
    simp only [quarters]
    split_ifs with hfirst
    · omega
    · have hne : e.mantissa ≠ 2 ^ 52 := by
        intro heq
        exact hfirst ⟨heq, by omega⟩
      omega
  have htwo : e.quarters.1 * 2 ≤ e.quarters.1 * 2 ^ (n + 1) :=
    Nat.mul_le_mul_left _ (by
      rw [pow_succ]
      have : 1 ≤ 2 ^ n := Nat.one_le_two_pow
      omega)
  rw [upper_eq]
  omega

/-- The intervals of two doubles do not overlap, and where they touch one significand is odd. -/
theorem upper_le_lower_of_below
    {d e : Double} (h : d.Below e) :
    d.quarters.2.2 * d.quarter ≤ e.quarters.1 * e.quarter ∧
      (d.quarters.2.2 * d.quarter = e.quarters.1 * e.quarter →
        d.mantissa % 2 = 1 ∨ e.mantissa % 2 = 1) := by
  have hq := d.quarter_pos
  rcases h with hexp | ⟨hexp, hlt⟩
  · obtain ⟨n, hn⟩ := Int.eq_ofNat_of_zero_le (show 0 ≤ e.exponent - d.exponent - 1 by omega)
    have he : e.exponent = d.exponent + (n + 1) := by omega
    obtain ⟨hle, htouch⟩ := upper_le_lower_of_exponent_lt he
    have hquarter : e.quarter = 2 ^ (n + 1) * d.quarter := by
      unfold quarter
      rw [he, ← zpow_natCast, ← zpow_add₀ (by norm_num)]
      congr 1
      push_cast
      ring
    rw [hquarter, ← mul_assoc, mul_le_mul_iff_left₀ hq, mul_left_inj' hq.ne']
    refine ⟨by exact_mod_cast hle, fun heq => Or.inl (htouch ?_)⟩
    exact_mod_cast heq
  · obtain ⟨hle, htouch⟩ := upper_le_lower_of_mantissa_lt hlt
    have hquarter : e.quarter = d.quarter := by
      unfold quarter
      rw [hexp]
    rw [hquarter, mul_le_mul_iff_left₀ hq, mul_left_inj' hq.ne']
    refine ⟨by exact_mod_cast hle, fun heq => htouch ?_⟩
    exact_mod_cast heq

/-- No number names two doubles of different size. -/
theorem not_namedBy_of_below
    {d e : Double} {x : ℚ} (h : d.Below e) (hd : d.NamedBy x) :
    ¬ e.NamedBy x := by
  intro he
  obtain ⟨hle, htouch⟩ := upper_le_lower_of_below h
  have hx := hd.le.2
  have hx' := he.le.1
  rcases htouch (by linarith) with hodd | hodd
  · have := (hd.lt_of_odd hodd).2
    linarith
  · have := (he.lt_of_odd hodd).1
    linarith

/-- A double other than zero has digits of a number other than zero. -/
theorem shortest_value_pos
    {d : Double} (hpos : 0 < d.mantissa) :
    0 < d.shortest.value := by
  have hlow : 0 < d.quarters.1 := by
    simp only [quarters]
    split_ifs <;> omega
  have hlow' : (0 : ℚ) < d.quarters.1 := by exact_mod_cast hlow
  calc (0 : ℚ) < d.quarters.1 * d.quarter := mul_pos hlow' d.quarter_pos
    _ ≤ d.shortest.value := (namedBy_shortest hpos).le.1

theorem shortest_value_of_zero
    {d : Double} (hzero : d.mantissa = 0) :
    d.shortest.value = 0 := by
  unfold shortest
  rw [if_pos hzero]
  simp [Decimal.value]

/-- **Shortest digits tell doubles apart.** Doubles with shortest decimals of the same value have
the same size. -/
theorem eq_of_shortest_value_eq
    {d e : Double} (h : d.shortest.value = e.shortest.value) :
    d.mantissa = e.mantissa ∧ d.exponent = e.exponent := by
  rcases Nat.eq_zero_or_pos d.mantissa with hd | hd
  · rcases Nat.eq_zero_or_pos e.mantissa with he | he
    · have := d.stored
      have := e.stored
      omega
    · have := shortest_value_pos he
      rw [← h, shortest_value_of_zero hd] at this
      exact absurd this (lt_irrefl 0)
  · rcases Nat.eq_zero_or_pos e.mantissa with he | he
    · have := shortest_value_pos hd
      rw [h, shortest_value_of_zero he] at this
      exact absurd this (lt_irrefl 0)
    · have hd' := namedBy_shortest hd
      have he' := namedBy_shortest he
      rw [← h] at he'
      have hnot : ¬ d.Below e := fun hbelow => not_namedBy_of_below hbelow hd' he'
      have hnot' : ¬ e.Below d := fun hbelow => not_namedBy_of_below hbelow he' hd'
      unfold Below at hnot hnot'
      omega

end Double

end WalletEvents
