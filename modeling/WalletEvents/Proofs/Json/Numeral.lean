import WalletEvents.Json.Number
import WalletEvents.Proofs.Double.Shortest

/-!
# Numbers and their numerals

This module says how a JSON number is spelled and what the spelling is read as.

* `Number.numeral` gives the parts of the text of a number: its sign, the digits
  before and behind the point, and its exponent.
* `Number.ofChars?_text` reads these parts off the text again.
* `Numeral.magnitude` is the number that the parts stand for. For a double it is
  the value of its shortest decimal.

Since shortest decimals tell doubles apart, and only a double has a point or an
exponent, different numbers have different numerals.
-/

namespace WalletEvents

/-- No superfluous zero stands in front of the digits of a positive number. -/
theorem head?_toDigits_ne_zero
    {n : ℕ} (hn : 0 < n) :
    (Nat.toDigits 10 n).head? ≠ some '0' := by
  induction n using Nat.strong_induction_on with
  | _ n ih =>
      rw [Nat.toDigits_eq_if (by decide)]
      split
      · interval_cases n <;> decide
      · rw [List.head?_append_of_ne_nil _ Nat.toDigits_ne_nil]
        exact ih (n / 10) (by omega) (by omega)

namespace Json

namespace Numeral

/-- The part from the point on. -/
def fractionChars : Option (List Char) → List Char
  | none => []
  | some digits => '.' :: digits

/-- The exponent part, always with a sign. -/
def exponentChars : Option (Bool × List Char) → List Char
  | none => []
  | some (negative, digits) => 'e' :: (if negative then '-' else '+') :: digits

/-- The numeral without its sign. -/
def unsignedChars (n : Numeral) : List Char :=
  n.whole ++ (fractionChars n.fraction ++ exponentChars n.exponent)

/-- The numeral as it is spelled. -/
def chars (n : Numeral) : List Char :=
  (if n.negative then ['-'] else []) ++ n.unsignedChars

/-- The parts are runs of digits, none of them empty, with no superfluous zero in front. -/
structure WellFormed (n : Numeral) : Prop where
  whole : wholeAllowed n.whole = true
  wholeDigits : ∀ c ∈ n.whole, c.isDigit = true
  fraction : ∀ digits, n.fraction = some digits →
    digits ≠ [] ∧ ∀ c ∈ digits, c.isDigit = true
  exponent : ∀ negative digits, n.exponent = some (negative, digits) →
    digits ≠ [] ∧ ∀ c ∈ digits, c.isDigit = true

theorem wholeAllowed_of_head
    {digits : List Char} (hne : digits ≠ []) (hhead : digits.head? ≠ some '0') :
    wholeAllowed digits = true := by
  unfold wholeAllowed
  split
  · exact absurd rfl hne
  · rfl
  · exact absurd rfl hhead
  · rfl

variable {n : Numeral}

theorem WellFormed.exponentPart?_exponentChars
    (h : n.WellFormed) :
    exponentPart? (exponentChars n.exponent) = some n.exponent := by
  cases hexp : n.exponent with
  | none => rfl
  | some part =>
      obtain ⟨negative, digits⟩ := part
      obtain ⟨hne, hdigits⟩ := h.exponent negative digits hexp
      have hall : digits.all Char.isDigit = true := List.all_eq_true.mpr hdigits
      have hempty : digits.isEmpty = false := by simpa using hne
      cases negative with
      | true => simp [exponentChars, exponentPart?, hall, hempty]
      | false => simp [exponentChars, exponentPart?, hall, hempty]

/-- A run of digits ends where the exponent part begins. -/
theorem takeWhile_exponentChars (part : Option (Bool × List Char)) :
    (exponentChars part).takeWhile Char.isDigit = [] ∧
      (exponentChars part).dropWhile Char.isDigit = exponentChars part := by
  cases part with
  | none => exact ⟨rfl, rfl⟩
  | some part => exact ⟨rfl, rfl⟩

/-- A run of digits ends where the point stands. -/
theorem takeWhile_fractionChars
    (fraction : Option (List Char)) (part : Option (Bool × List Char)) :
    (fractionChars fraction ++ exponentChars part).takeWhile Char.isDigit = [] ∧
      (fractionChars fraction ++ exponentChars part).dropWhile Char.isDigit =
        fractionChars fraction ++ exponentChars part := by
  cases fraction with
  | none => exact takeWhile_exponentChars part
  | some digits => exact ⟨rfl, rfl⟩

theorem WellFormed.fractionPart?_chars
    (h : n.WellFormed) :
    fractionPart? (fractionChars n.fraction ++ exponentChars n.exponent) =
      some (n.fraction, n.exponent) := by
  cases hfrac : n.fraction with
  | none =>
      have hpart := h.exponentPart?_exponentChars
      cases hexp : n.exponent with
      | none => rfl
      | some part =>
          rw [hexp] at hpart
          simp only [fractionChars, exponentChars, List.nil_append] at hpart ⊢
          simp [fractionPart?, hpart]
  | some digits =>
      obtain ⟨hne, hdigits⟩ := h.fraction digits hfrac
      obtain ⟨htake, hdrop⟩ := takeWhile_exponentChars n.exponent
      simp only [fractionChars, List.cons_append, fractionPart?,
        List.takeWhile_append_of_pos hdigits, List.dropWhile_append_of_pos hdigits, htake, hdrop,
        List.append_nil, h.exponentPart?_exponentChars, Option.map_some]
      simpa using hne

/-- **A numeral is read off its spelling.** -/
theorem WellFormed.ofChars?_chars
    (h : n.WellFormed) :
    ofChars? n.chars = some n := by
  obtain ⟨htake, hdrop⟩ := takeWhile_fractionChars n.fraction n.exponent
  have hmagnitude :
      (if wholeAllowed (n.unsignedChars.takeWhile Char.isDigit) = true then
        (fractionPart? (n.unsignedChars.dropWhile Char.isDigit)).map fun (fraction, exponent) =>
          (⟨n.negative, n.unsignedChars.takeWhile Char.isDigit, fraction, exponent⟩ : Numeral)
      else none) = some n := by
    unfold unsignedChars
    rw [List.takeWhile_append_of_pos h.wholeDigits, List.dropWhile_append_of_pos h.wholeDigits,
      htake, hdrop, List.append_nil, if_pos h.whole, h.fractionPart?_chars]
    rfl
  cases hneg : n.negative with
  | true =>
      rw [hneg] at hmagnitude
      simpa [chars, hneg, ofChars?] using hmagnitude
  | false =>
      rw [hneg] at hmagnitude
      have hhead : ∃ c rest, n.unsignedChars = c :: rest ∧ c ≠ '-' := by
        cases hwhole : n.whole with
        | nil =>
            have := h.whole
            simp [hwhole, wholeAllowed] at this
        | cons c rest =>
            refine ⟨c, rest ++ (fractionChars n.fraction ++ exponentChars n.exponent), ?_, ?_⟩
            · simp [unsignedChars, hwhole]
            · rintro rfl
              have := h.wholeDigits '-' (by simp [hwhole])
              simp at this
      obtain ⟨c, rest, hchars, hc⟩ := hhead
      have hread : ofChars? n.chars =
          if wholeAllowed (n.unsignedChars.takeWhile Char.isDigit) = true then
            (fractionPart? (n.unsignedChars.dropWhile Char.isDigit)).map fun (fraction, exponent) =>
              (⟨false, n.unsignedChars.takeWhile Char.isDigit, fraction, exponent⟩ : Numeral)
          else none := by
        simp only [chars, hneg, Bool.false_eq_true, if_false, List.nil_append, hchars]
        unfold ofChars?
        split
        rename_i negative magnitude heq
        split at heq
        · rename_i hminus
          exact absurd (List.cons.inj hminus).1 hc
        · obtain ⟨rfl, rfl⟩ := Prod.mk.inj heq
          rfl
      rw [hread]
      exact hmagnitude

/-- The power of ten that the exponent part asks for. -/
def exponentNumber : Option (Bool × List Char) → ℤ
  | none => 0
  | some (negative, digits) =>
    if negative then -(Nat.ofDigitChars 10 digits 0 : ℤ) else Nat.ofDigitChars 10 digits 0

/-- The number that the parts stand for, without the sign. -/
def magnitude (n : Numeral) : ℚ :=
  Nat.ofDigitChars 10 (n.whole ++ n.fraction.getD []) 0 *
    10 ^ (exponentNumber n.exponent - (n.fraction.getD []).length)

end Numeral

namespace Number

/-- The parts of a decimal in plain notation. -/
def plainNumeral (d : Decimal) : Numeral :=
  if 0 ≤ d.power then
    ⟨false, d.digitChars ++ List.replicate d.power.toNat '0', some ['0'], none⟩
  else
    let decimals := (-d.power).toNat
    if decimals < d.digitChars.length then
      ⟨false, d.digitChars.take (d.digitChars.length - decimals),
        some (d.digitChars.drop (d.digitChars.length - decimals)), none⟩
    else
      ⟨false, ['0'],
        some (List.replicate (decimals - d.digitChars.length) '0' ++ d.digitChars), none⟩

/-- The parts of a decimal with one digit before the point. -/
def scientificNumeral (d : Decimal) : Numeral :=
  ⟨false, d.digitChars.take 1,
    if d.digitChars.length ≤ 1 then none else some (d.digitChars.drop 1),
    some (decide (d.scientificExponent < 0), Nat.toDigits 10 d.scientificExponent.natAbs)⟩

/-- The parts of a decimal in the notation that its exponent asks for. -/
def decimalNumeral (d : Decimal) : Numeral :=
  if -5 ≤ d.scientificExponent ∧ d.scientificExponent ≤ 15 then plainNumeral d
  else scientificNumeral d

/-- The parts of the text of a number. -/
def numeral : Number → Numeral
  | .integer i _ => ⟨decide (i < 0), Nat.toDigits 10 i.natAbs, none, none⟩
  | .double d =>
    { decimalNumeral d.shortest with negative := d.negative }

theorem toList_plainNotation (d : Decimal) :
    (plainNotation d).toList = (plainNumeral d).unsignedChars := by
  unfold plainNotation plainNumeral
  dsimp only
  split
  · simp [Numeral.unsignedChars, Numeral.fractionChars, Numeral.exponentChars]
  · split
    · simp [Numeral.unsignedChars, Numeral.fractionChars, Numeral.exponentChars]
    · simp [Numeral.unsignedChars, Numeral.fractionChars, Numeral.exponentChars]

theorem digitChars_ne_nil (d : Decimal) :
    d.digitChars ≠ [] :=
  Nat.toDigits_ne_nil

theorem toList_scientificNotation (d : Decimal) :
    (scientificNotation d).toList = (scientificNumeral d).unsignedChars := by
  unfold scientificNotation scientificNumeral
  generalize d.scientificExponent = exponent
  rcases hdigits : d.digitChars with _ | ⟨digit, rest⟩
  · exact absurd hdigits (digitChars_ne_nil d)
  · by_cases hneg : exponent < 0
    · cases rest <;>
        simp [Numeral.unsignedChars, Numeral.fractionChars, Numeral.exponentChars, hneg]
    · cases rest <;>
        simp [Numeral.unsignedChars, Numeral.fractionChars, Numeral.exponentChars, hneg]

theorem toList_doubleText (d : Double) :
    (doubleText d).toList = (numeral (.double d)).chars := by
  have hmagnitude :
      (if -5 ≤ d.shortest.scientificExponent ∧ d.shortest.scientificExponent ≤ 15 then
        plainNotation d.shortest
      else scientificNotation d.shortest).toList =
        (decimalNumeral d.shortest).unsignedChars := by
    unfold decimalNumeral
    split
    · exact toList_plainNotation _
    · exact toList_scientificNotation _
  have hchars : (numeral (.double d)).chars =
      (if d.negative then ['-'] else []) ++ (decimalNumeral d.shortest).unsignedChars := rfl
  rw [hchars, ← hmagnitude]
  unfold doubleText
  cases d.negative <;> simp

theorem toList_text (n : Number) :
    n.text.toList = n.numeral.chars := by
  cases n with
  | integer i fits =>
      have htext : (Number.integer i fits).text.toList = i.repr.toList := rfl
      rw [htext, Int.repr_eq_if]
      by_cases hi : 0 ≤ i
      · have hnat : i.toNat = i.natAbs := by omega
        have hneg : ¬ i < 0 := by omega
        simp [numeral, Numeral.chars, Numeral.unsignedChars, Numeral.fractionChars,
          Numeral.exponentChars, hi, hneg, hnat]
      · have hnat : (-i).toNat = i.natAbs := by omega
        have hneg : i < 0 := by omega
        simp [numeral, Numeral.chars, Numeral.unsignedChars, Numeral.fractionChars,
          Numeral.exponentChars, hi, hneg, hnat]
  | double d => exact toList_doubleText d

theorem ofDigitChars_digitChars (d : Decimal) :
    Nat.ofDigitChars 10 d.digitChars 0 = d.digits := by
  simp [Decimal.digitChars]

theorem exponentNumber_toDigits (z : ℤ) :
    Numeral.exponentNumber (some (decide (z < 0), Nat.toDigits 10 z.natAbs)) = z := by
  by_cases hz : z < 0
  · simp only [Numeral.exponentNumber, hz, decide_true, if_true, Nat.ofDigitChars_ten_toDigits]
    omega
  · simp only [Numeral.exponentNumber, hz, decide_false, Bool.false_eq_true, if_false,
      Nat.ofDigitChars_ten_toDigits]
    omega

theorem magnitude_plainNumeral (d : Decimal) :
    (plainNumeral d).magnitude = d.value := by
  unfold plainNumeral Decimal.value
  dsimp only
  split
  · rename_i hpower
    obtain ⟨n, hn⟩ := Int.eq_ofNat_of_zero_le hpower
    simp [Numeral.magnitude, Numeral.exponentNumber, Nat.ofDigitChars_append, hn,
      ofDigitChars_digitChars, Nat.ofDigitChars_cons]
    field_simp
  · rename_i hpower
    have hexp : (0 : ℤ) - (-d.power).toNat = d.power := by omega
    split
    · rename_i hlt
      have hlen : (d.digitChars.drop (d.digitChars.length - (-d.power).toNat)).length =
          (-d.power).toNat := by
        rw [List.length_drop]
        omega
      simp only [Numeral.magnitude, Numeral.exponentNumber, Option.getD_some,
        List.take_append_drop, ofDigitChars_digitChars, hlen, hexp]
    · rename_i hle
      have hlen : (List.replicate ((-d.power).toNat - d.digitChars.length) '0' ++
          d.digitChars).length = (-d.power).toNat := by
        rw [List.length_append, List.length_replicate]
        omega
      have hdigits : Nat.ofDigitChars 10 (['0'] ++
          (List.replicate ((-d.power).toNat - d.digitChars.length) '0' ++ d.digitChars)) 0 =
            d.digits := by
        simp [Nat.ofDigitChars_append, Nat.ofDigitChars_cons, ofDigitChars_digitChars]
      simp only [Numeral.magnitude, Numeral.exponentNumber, Option.getD_some, hdigits, hlen, hexp]

theorem magnitude_scientificNumeral (d : Decimal) :
    (scientificNumeral d).magnitude = d.value := by
  unfold scientificNumeral Decimal.value Numeral.magnitude
  dsimp only
  rw [exponentNumber_toDigits]
  by_cases hlen : d.digitChars.length ≤ 1
  · have hone : d.digitChars.length = 1 := by
      have := List.length_pos_iff.mpr (digitChars_ne_nil d)
      omega
    simp [ofDigitChars_digitChars, Decimal.scientificExponent, hone, List.take_of_length_le]
  · have hexp : d.scientificExponent - ((d.digitChars.length - 1 : ℕ) : ℤ) = d.power := by
      unfold Decimal.scientificExponent
      omega
    simp only [if_neg hlen, Option.getD_some, List.take_append_drop, List.length_drop,
      ofDigitChars_digitChars, hexp]

theorem magnitude_numeral_double (d : Double) :
    (numeral (.double d)).magnitude = d.shortest.value := by
  have hsign : (numeral (.double d)).magnitude = (decimalNumeral d.shortest).magnitude := rfl
  rw [hsign]
  unfold decimalNumeral
  split
  · exact magnitude_plainNumeral _
  · exact magnitude_scientificNumeral _

/-- Only a double has a point or an exponent. -/
theorem numeral_double_parts (d : Double) :
    (numeral (.double d)).fraction ≠ none ∨ (numeral (.double d)).exponent ≠ none := by
  unfold numeral decimalNumeral plainNumeral scientificNumeral
  dsimp only
  split
  · left
    split
    · simp
    · split <;> simp
  · right
    simp

/-- **Different numbers have different numerals.** -/
theorem numeral_injective :
    Function.Injective numeral := by
  intro n m h
  cases n with
  | integer i fits =>
      cases m with
      | integer j fits' =>
          obtain ⟨hsign, hdigits, -, -⟩ := Numeral.mk.inj h
          have hnat : i.natAbs = j.natAbs := by
            rw [← Nat.ofDigitChars_ten_toDigits (n := i.natAbs), hdigits,
              Nat.ofDigitChars_ten_toDigits]
          have hsign' : i < 0 ↔ j < 0 := decide_eq_decide.mp hsign
          obtain rfl : i = j := by omega
          rfl
      | double e =>
          have hparts := numeral_double_parts e
          rw [← h] at hparts
          simp [numeral] at hparts
  | double d =>
      cases m with
      | integer j fits' =>
          have hparts := numeral_double_parts d
          rw [h] at hparts
          simp [numeral] at hparts
      | double e =>
          have hsign : d.negative = e.negative := congrArg Numeral.negative h
          have hvalue : d.shortest.value = e.shortest.value := by
            rw [← magnitude_numeral_double, h, magnitude_numeral_double]
          obtain ⟨hmantissa, hexponent⟩ := Double.eq_of_shortest_value_eq hvalue
          cases d
          cases e
          simp_all

theorem isDigit_toDigits (n : ℕ) :
    ∀ c ∈ Nat.toDigits 10 n, c.isDigit = true :=
  fun _ hc => Nat.isDigit_of_mem_toDigits (by decide) (by decide) hc

theorem wholeAllowed_toDigits (n : ℕ) :
    Numeral.wholeAllowed (Nat.toDigits 10 n) = true := by
  rcases Nat.eq_zero_or_pos n with rfl | hn
  · rfl
  · exact Numeral.wholeAllowed_of_head Nat.toDigits_ne_nil (head?_toDigits_ne_zero hn)

theorem wellFormed_plainNumeral
    {d : Decimal} (h : 0 < d.digits ∨ d.power = 0) :
    (plainNumeral d).WellFormed := by
  have hdigits : ∀ c ∈ d.digitChars, c.isDigit = true := isDigit_toDigits d.digits
  have hpos := List.length_pos_iff.mpr (digitChars_ne_nil d)
  unfold plainNumeral
  dsimp only
  split
  · refine ⟨?_, ?_, ?_, ?_⟩
    · rcases h with hd | hpower
      · refine Numeral.wholeAllowed_of_head (by simp [digitChars_ne_nil]) ?_
        dsimp only
        rw [List.head?_append_of_ne_nil _ (digitChars_ne_nil d)]
        exact head?_toDigits_ne_zero hd
      · simpa [hpower, Decimal.digitChars] using wholeAllowed_toDigits d.digits
    · intro c hc
      rcases List.mem_append.mp hc with hc | hc
      · exact hdigits c hc
      · rw [(List.mem_replicate.mp hc).2]
        rfl
    · rintro _ ⟨⟩
      simp
    · simp
  · rename_i hpower
    have hd : 0 < d.digits := by omega
    split
    · rename_i hlt
      refine ⟨?_, fun c hc => hdigits c (List.mem_of_mem_take hc), ?_, by simp⟩
      · obtain ⟨m, hm⟩ := Nat.exists_eq_succ_of_ne_zero
          (show d.digitChars.length - (-d.power).toNat ≠ 0 by omega)
        refine Numeral.wholeAllowed_of_head ?_ ?_
        · simp [hm, digitChars_ne_nil]
        · rw [List.head?_take, if_neg (by omega)]
          exact head?_toDigits_ne_zero hd
      · rintro _ ⟨⟩
        refine ⟨?_, fun c hc => hdigits c (List.mem_of_mem_drop hc)⟩
        rw [← List.length_pos_iff, List.length_drop]
        omega
    · refine ⟨rfl, by simp, ?_, by simp⟩
      rintro _ ⟨⟩
      refine ⟨by simp [digitChars_ne_nil], ?_⟩
      intro c hc
      rcases List.mem_append.mp hc with hc | hc
      · rw [(List.mem_replicate.mp hc).2]
        rfl
      · exact hdigits c hc

theorem wellFormed_scientificNumeral (d : Decimal) :
    (scientificNumeral d).WellFormed := by
  have hdigits : ∀ c ∈ d.digitChars, c.isDigit = true := isDigit_toDigits d.digits
  refine ⟨?_, fun c hc => hdigits c (List.mem_of_mem_take hc), ?_, ?_⟩
  · rcases hchars : d.digitChars with _ | ⟨digit, rest⟩
    · exact absurd hchars (digitChars_ne_nil d)
    · simp only [scientificNumeral, hchars, List.take_succ_cons, List.take_zero]
      unfold Numeral.wholeAllowed
      split <;> simp_all
  · intro digits hfraction
    simp only [scientificNumeral] at hfraction
    split at hfraction
    · simp at hfraction
    · rename_i hlen
      obtain rfl := Option.some.inj hfraction
      refine ⟨?_, fun c hc => hdigits c (List.mem_of_mem_drop hc)⟩
      rw [← List.length_pos_iff, List.length_drop]
      omega
  · rintro negative digits hexponent
    obtain ⟨-, rfl⟩ := Prod.mk.inj (Option.some.inj hexponent)
    exact ⟨Nat.toDigits_ne_nil, isDigit_toDigits _⟩

theorem wellFormed_numeral (n : Number) :
    n.numeral.WellFormed := by
  cases n with
  | integer i fits =>
      exact ⟨wholeAllowed_toDigits _, isDigit_toDigits _, by simp [numeral], by simp [numeral]⟩
  | double d =>
      have hdigits : 0 < d.shortest.digits ∨ d.shortest.power = 0 := by
        rcases Nat.eq_zero_or_pos d.mantissa with hd | hd
        · right
          simp [Double.shortest, hd]
        · left
          have hvalue := Double.shortest_value_pos hd
          by_contra hzero
          have : d.shortest.digits = 0 := by omega
          simp [Decimal.value, this] at hvalue
      have hunsigned : (decimalNumeral d.shortest).WellFormed := by
        unfold decimalNumeral
        split
        · exact wellFormed_plainNumeral hdigits
        · exact wellFormed_scientificNumeral _
      exact ⟨hunsigned.whole, hunsigned.wholeDigits, hunsigned.fraction, hunsigned.exponent⟩

/-- **The text of a number is read as its numeral.** -/
theorem ofChars?_text (n : Number) :
    Numeral.ofChars? n.text.toList = some n.numeral := by
  rw [toList_text]
  exact n.wellFormed_numeral.ofChars?_chars

/-- Different numbers have different texts. -/
theorem text_injective :
    Function.Injective text := by
  intro n m h
  have hnumeral := ofChars?_text n
  rw [h, ofChars?_text] at hnumeral
  exact numeral_injective (Option.some.inj hnumeral).symm

end Number

end Json

end WalletEvents
