import WalletEvents.Proofs.Double.Shortest

/-!
# The coarsest grid

The search for the shortest decimal of a double starts on a grid with a step beyond the double
and stops at the first grid that has a point in the interval of the double. So no decimal with
a higher power of ten names the double (`Double.le_power_shortest`), and the digits of the
shortest one do not end in a zero (`Double.shortest_digits_mod_ten`).
-/

namespace WalletEvents

namespace Double

variable {d : Double}

/-- What lies between the double and a number that names it names it as well. -/
theorem namedBy_of_between
    {x y : ℚ} (hpos : 0 < d.mantissa) (hx : d.NamedBy x)
    (hy : x ≤ y ∧ y ≤ d.quarters.2.1 * d.quarter ∨ d.quarters.2.1 * d.quarter ≤ y ∧ y ≤ x) :
    d.NamedBy y := by
  have hbounds : d.quarters.1 < d.quarters.2.1 ∧ d.quarters.2.1 < d.quarters.2.2 := by
    simp only [quarters]
    split <;> omega
  have hlow : (d.quarters.1 : ℚ) * d.quarter < d.quarters.2.1 * d.quarter :=
    mul_lt_mul_of_pos_right (by exact_mod_cast hbounds.1) d.quarter_pos
  have hhigh : (d.quarters.2.1 : ℚ) * d.quarter < d.quarters.2.2 * d.quarter :=
    mul_lt_mul_of_pos_right (by exact_mod_cast hbounds.2) d.quarter_pos
  unfold NamedBy at hx ⊢
  by_cases heven : d.mantissa % 2 = 0
  · rw [if_pos heven] at hx ⊢
    rcases hy with hy | hy
    · exact ⟨hx.1.trans hy.1, hy.2.trans hhigh.le⟩
    · exact ⟨hlow.le.trans hy.1, hy.2.trans hx.2⟩
  · rw [if_neg heven] at hx ⊢
    rcases hy with hy | hy
    · exact ⟨hx.1.trans_le hy.1, hy.2.trans_lt hhigh⟩
    · exact ⟨hlow.trans_le hy.1, hy.2.trans_lt hx.2⟩

/-- A grid on which any point names the double has one next to the double. -/
theorem exists_gridPoint_of_namedBy
    {k : ℤ} {p : ℕ} (hpos : 0 < d.mantissa) (h : d.NamedBy (p * 10 ^ k)) :
    ∃ q, d.gridPoint? k = some q := by
  have hnamed : d.names k (d.gridFloor k) = true ∨ d.names k (d.gridFloor k + 1) = true := by
    rcases Nat.lt_or_ge (d.gridFloor k) p with hp | hp
    · right
      rw [names_iff]
      refine namedBy_of_between hpos h (.inr ⟨?_, ?_⟩)
      · push_cast
        exact (d.lt_gridFloor_succ k).le
      · gcongr
        exact hp
    · left
      rw [names_iff]
      refine namedBy_of_between hpos h (.inl ⟨?_, d.gridFloor_le k⟩)
      gcongr
  rw [gridPoint?_eq]
  cases hhere : d.names k (d.gridFloor k) <;> cases hthere : d.names k (d.gridFloor k + 1)
  · simp [hhere, hthere] at hnamed
  · exact ⟨_, rfl⟩
  · exact ⟨_, rfl⟩
  · dsimp only
    split_ifs
    · exact ⟨_, rfl⟩
    · exact ⟨_, rfl⟩
    · exact ⟨_, rfl⟩

/-- The search stops at the first grid that has a point. -/
theorem le_power_searchGrids
    {k start : ℤ} {p : ℕ} (hp : d.gridPoint? k = some p) (hk : k ≤ start) (steps : ℕ) :
    k ≤ (d.searchGrids steps start).power := by
  induction steps generalizing start with
  | zero => exact hk
  | succ steps ih =>
      rw [searchGrids]
      cases hstart : d.gridPoint? start with
      | some q => exact hk
      | none =>
          have hne : k ≠ start := by
            rintro rfl
            rw [hp] at hstart
            cases hstart
          exact ih (by omega)

/-- The step of the first grid is beyond the interval of the double. -/
theorem upper_lt_first_step (d : Double) :
    d.quarters.2.2 * d.quarter <
      (10 : ℚ) ^ ((d.exponent + d.mantissa.log2 + 2) * 30103 / 100000 + 2) := by
  have hmantissa : d.mantissa < 2 ^ (d.mantissa.log2 + 1) := Nat.lt_log2_self
  have hquarters : d.quarters.2.2 < 2 ^ (d.mantissa.log2 + 3) := by
    rw [upper_eq, Nat.pow_succ 2 (d.mantissa.log2 + 2), Nat.pow_succ 2 (d.mantissa.log2 + 1)]
    omega
  have hlog : d.mantissa.log2 < 53 := by
    rcases Nat.eq_zero_or_pos d.mantissa with hzero | hpos
    · rw [hzero]
      decide
    · rw [Nat.log2_lt (by omega)]
      rcases d.stored with h | h <;> omega
  have hpowers : (2 : ℚ) ^ (d.exponent + d.mantissa.log2 + 1) ≤
      10 ^ ((d.exponent + d.mantissa.log2 + 2) * 30103 / 100000 + 2) := by
    have hexponent : -1074 ≤ d.exponent ∧ d.exponent ≤ 971 := by
      rcases d.stored with h | h <;> omega
    have hinverse := ten_zpow_le_two_zpow
      (a := -((d.exponent + d.mantissa.log2 + 2) * 30103 / 100000 + 2))
      (b := -(d.exponent + d.mantissa.log2 + 1)) (by omega) (by omega)
    rw [zpow_neg, zpow_neg] at hinverse
    exact (inv_le_inv₀ (by positivity) (by positivity)).mp hinverse
  calc (d.quarters.2.2 : ℚ) * d.quarter
      < 2 ^ (d.mantissa.log2 + 3) * d.quarter := by
        refine mul_lt_mul_of_pos_right ?_ d.quarter_pos
        exact_mod_cast hquarters
    _ = 2 ^ (d.exponent + d.mantissa.log2 + 1) := by
        rw [quarter, ← zpow_natCast, ← zpow_add₀ (by norm_num)]
        congr 1
        push_cast
        ring
    _ ≤ _ := hpowers

/-- **No decimal with a higher power of ten names the double.** -/
theorem le_power_shortest
    {k : ℤ} {p : ℕ} (hpos : 0 < d.mantissa) (hp : 0 < p) (h : d.NamedBy (p * 10 ^ k)) :
    k ≤ d.shortest.power := by
  have hstep : (0 : ℚ) < 10 ^ k := by positivity
  have hk : k < (d.exponent + d.mantissa.log2 + 2) * 30103 / 100000 + 2 := by
    refine (zpow_lt_zpow_iff_right₀ (by norm_num : (1 : ℚ) < 10)).mp ?_
    calc (10 : ℚ) ^ k
        ≤ p * 10 ^ k := le_mul_of_one_le_left hstep.le (by exact_mod_cast hp)
      _ ≤ d.quarters.2.2 * d.quarter := h.le.2
      _ < _ := d.upper_lt_first_step
  obtain ⟨q, hq⟩ := exists_gridPoint_of_namedBy hpos h
  rw [shortest, if_neg (by omega)]
  exact le_power_searchGrids hq (by omega) 24

/-- **The shortest digits do not end in a zero.** -/
theorem shortest_digits_mod_ten (hpos : 0 < d.mantissa) :
    d.shortest.digits % 10 ≠ 0 := by
  intro hzero
  have hnamed := namedBy_shortest hpos
  have hvalue := shortest_value_pos hpos
  obtain ⟨p, hp⟩ := Nat.dvd_of_mod_eq_zero hzero
  have hcoarser : d.shortest.value = p * 10 ^ (d.shortest.power + 1) := by
    rw [Decimal.value, hp, zpow_add_one₀ (by norm_num)]
    push_cast
    ring
  have hp' : 0 < p := by
    rcases Nat.eq_zero_or_pos p with rfl | hp'
    · simp [hcoarser] at hvalue
    · exact hp'
  have hle := le_power_shortest hpos hp' (hcoarser ▸ hnamed)
  omega

end Double

end WalletEvents
