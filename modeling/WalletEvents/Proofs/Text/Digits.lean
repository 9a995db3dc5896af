import WalletEvents.Double.Reader
import WalletEvents.Text.Blank
import Mathlib.Data.List.Basic

/-!
# Runs of digits

The value of a run of decimal digits, and what the digits of a number are read as.
A run ends where the text does not go on with a digit (`EndsDigits`). A digit is no
blank, so a reader that skips blanks stops in front of it.
-/

namespace WalletEvents

theorem digitsValue_eq (digits : List Char) :
    digitsValue digits = Nat.ofDigitChars 10 digits 0 := by
  unfold digitsValue Nat.ofDigitChars
  congr 1
  funext value c
  rw [Nat.mul_comm]

theorem digitsValue_toDigits (n : Nat) :
    digitsValue (Nat.toDigits 10 n) = n := by
  rw [digitsValue_eq, Nat.ofDigitChars_ten_toDigits]

/-- A limit that is applied at each digit might as well be applied at the end. -/
theorem digitsValueUpTo_eq (most : Nat) (digits : List Char) :
    digitsValueUpTo most digits = min most (digitsValue digits) := by
  have hfold : ∀ value, digits.foldl
      (fun value c => min most (value * 10 + (c.toNat - '0'.toNat))) (min most value) =
        min most (digits.foldl (fun value c => value * 10 + (c.toNat - '0'.toNat)) value) := by
    induction digits with
    | nil => exact fun value => rfl
    | cons c rest ih =>
        intro value
        rw [List.foldl_cons, List.foldl_cons, ← ih]
        congr 1
        omega
  have hzero := hfold 0
  rwa [Nat.min_zero] at hzero

theorem digitsValueUpTo_of_le
    {most : Nat} {digits : List Char} (h : digitsValue digits ≤ most) :
    digitsValueUpTo most digits = digitsValue digits := by
  rw [digitsValueUpTo_eq, Nat.min_eq_right h]

/-- The text does not go on with a digit. -/
def EndsDigits (rest : List Char) : Prop := ∀ c, rest.head? = some c → c.isDigit = false

theorem endsDigits_cons {c : Char} (rest : List Char) (h : c.isDigit = false) :
    EndsDigits (c :: rest) := by
  rintro _ ⟨⟩
  exact h

theorem takeWhile_digits
    {digits rest : List Char} (hdigits : ∀ c ∈ digits, c.isDigit = true) (hrest : EndsDigits rest) :
    (digits ++ rest).takeWhile Char.isDigit = digits := by
  rw [List.takeWhile_append_of_pos hdigits]
  cases rest with
  | nil => simp
  | cons c rest => rw [List.takeWhile_cons_of_neg (by simp [hrest c rfl]), List.append_nil]

theorem dropWhile_digits
    {digits rest : List Char} (hdigits : ∀ c ∈ digits, c.isDigit = true) (hrest : EndsDigits rest) :
    (digits ++ rest).dropWhile Char.isDigit = rest := by
  rw [List.dropWhile_append_of_pos hdigits]
  cases rest with
  | nil => rfl
  | cons c rest => rw [List.dropWhile_cons_of_neg (by simp [hrest c rfl])]

theorem isBlank_of_isDigit {c : Char} (h : c.isDigit = true) :
    isBlank c = false := by
  have hcode : 48 ≤ c.toNat ∧ c.toNat ≤ 57 := by
    simpa [Char.isDigit, UInt32.le_iff_toNat_le] using h
  simp only [isBlank, Bool.or_eq_false_iff, Bool.and_eq_false_iff, decide_eq_false_iff_not,
    beq_eq_false_iff_ne]
  omega

end WalletEvents
