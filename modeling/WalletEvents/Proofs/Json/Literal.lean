import Mathlib.Data.List.TakeWhile
import WalletEvents.Proofs.Double.Coarsest
import WalletEvents.Proofs.Json.Rewritten
import WalletEvents.Proofs.Json.Tokens

/-!
# Literals of numbers

A number is read from a literal, and the text of the number is what is written later. This module
says when the text is the literal again.

* A literal without point and exponent is kept exactly if 64 bits hold the integer and it is not
  a negative zero (`Number.text_eq_iff_fits`).
* A literal with a superfluous zero at the end of its decimals is never kept
  (`Number.text_ne_of_trailing_zero`), since the shortest digits of a double do not end in one.
* A literal with an exponent is kept only if the exponent is written with a small letter and a sign
  (`Number.toList_eq_chars`).
-/

namespace WalletEvents

namespace Json

/-- A digit is the digit of its value. -/
theorem toDigits_digit {c : Char} (hc : c.isDigit = true) :
    Nat.toDigits 10 (c.toNat - '0'.toNat) = [c] := by
  obtain ⟨hlow, hhigh⟩ := Token.toNat_le_of_isDigit hc
  have hzero : '0'.toNat = 48 := rfl
  rw [Nat.toDigits_of_lt_base (by omega), List.singleton_inj, ← Char.toNat_inj,
    Nat.toNat_digitChar_of_lt_ten (by omega)]
  omega

/-- Behind a number other than zero, digits are added at the end. -/
theorem toDigits_foldl
    {digits : List Char} (hdigits : ∀ c ∈ digits, c.isDigit = true) {n : Nat} (hn : 0 < n) :
    Nat.toDigits 10 (digits.foldl (fun value c => value * 10 + (c.toNat - '0'.toNat)) n) =
      Nat.toDigits 10 n ++ digits := by
  induction digits generalizing n with
  | nil => rw [List.foldl_nil, List.append_nil]
  | cons c rest ih =>
      obtain ⟨hc, hrest⟩ := List.forall_mem_cons.mp hdigits
      obtain ⟨hlow, hhigh⟩ := Token.toNat_le_of_isDigit hc
      have hzero : '0'.toNat = 48 := rfl
      rw [List.foldl_cons, ih hrest (by omega), Nat.mul_comm n,
        ← Nat.toDigits_append_toDigits (by decide) hn (by omega), toDigits_digit hc,
        List.append_assoc, List.singleton_append]

/-- Digits without a superfluous zero in front are those of their value. -/
theorem toDigits_digitsValue
    {digits : List Char} (hallowed : Numeral.wholeAllowed digits = true)
    (hdigits : ∀ c ∈ digits, c.isDigit = true) :
    Nat.toDigits 10 (digitsValue digits) = digits := by
  cases digits with
  | nil => cases hallowed
  | cons c rest =>
      obtain ⟨hc, hrest⟩ := List.forall_mem_cons.mp hdigits
      rw [digitsValue, List.foldl_cons, Nat.zero_mul, Nat.zero_add]
      by_cases hzero : c = '0'
      · subst hzero
        cases rest with
        | nil => rfl
        | cons next rest => cases hallowed
      · have hpos : 0 < c.toNat - '0'.toNat := by
          obtain ⟨hlow, -⟩ := Token.toNat_le_of_isDigit hc
          have hne : c.toNat ≠ '0'.toNat := fun h => hzero (Char.toNat_inj.mp h)
          have hcode : '0'.toNat = 48 := rfl
          omega
        rw [toDigits_foldl hrest hpos, toDigits_digit hc, List.singleton_append]

theorem getLast?_toDigits (n : Nat) :
    (Nat.toDigits 10 n).getLast? = some (Nat.digitChar (n % 10)) := by
  rw [Nat.toDigits_eq_if (by decide)]
  split
  · next hn => simp [Nat.mod_eq_of_lt hn]
  · simp

namespace Numeral

variable {text : List Char} {numeral : Numeral}

theorem eq_nil_of_exponentPart? (h : exponentPart? text = some none) :
    text = [] := by
  unfold exponentPart? at h
  split at h
  · rfl
  · split_ifs at h
    split at h
    simp at h

/-- Without decimals and an exponent, nothing stands behind the digits. -/
theorem eq_nil_of_fractionPart? (h : fractionPart? text = some (none, none)) :
    text = [] := by
  unfold fractionPart? at h
  split at h
  · simp at h
  · obtain ⟨part, hpart, hnone⟩ := Option.map_eq_some_iff.mp h
    obtain rfl := (Prod.mk.inj hnone).2
    exact eq_nil_of_exponentPart? hpart

/-- A literal is its sign, its digits, and what is read as the decimals and the exponent. -/
theorem exists_of_ofChars? (h : ofChars? text = some numeral) :
    wholeAllowed numeral.whole = true ∧ (∀ c ∈ numeral.whole, c.isDigit = true) ∧
      ∃ rest, text = (if numeral.negative then ['-'] else []) ++ numeral.whole ++ rest ∧
        fractionPart? rest = some (numeral.fraction, numeral.exponent) := by
  unfold ofChars? at h
  split at h
  next negative magnitude hsign =>
  have htext : text = (if negative then ['-'] else []) ++ magnitude := by
    split at hsign
    · cases hsign
      rfl
    · cases hsign
      rfl
  dsimp only at h
  split at h
  · next hallowed =>
    obtain ⟨⟨fraction, exponent⟩, hparts, rfl⟩ := Option.map_eq_some_iff.mp h
    refine ⟨hallowed, fun c hc => List.mem_takeWhile_imp hc, _, ?_, hparts⟩
    rw [List.append_assoc, List.takeWhile_append_dropWhile]
    exact htext
  · cases h

/-- A literal without decimals and an exponent is spelled in one way only. -/
theorem eq_chars_of_ofChars?
    (h : ofChars? text = some numeral) (hfraction : numeral.fraction = none)
    (hexponent : numeral.exponent = none) :
    text = numeral.chars := by
  obtain ⟨-, -, rest, rfl, hrest⟩ := exists_of_ofChars? h
  rw [hfraction, hexponent] at hrest
  rw [eq_nil_of_fractionPart? hrest]
  simp [chars, unsignedChars, hfraction, hexponent, fractionChars, exponentChars]

theorem isNumeralChar_of_exponentPart?
    {part : Option (Bool × List Char)} (h : exponentPart? text = some part) :
    ∀ c ∈ text, Token.isNumeralChar c = true := by
  unfold exponentPart? at h
  split at h
  · exact fun c hc => by cases hc
  · next letter rest =>
    split_ifs at h with hletter
    split at h
    next negative digits hsign =>
    split_ifs at h with hdigits
    have hall : ∀ c ∈ digits, Token.isNumeralChar c = true := by
      intro c hc
      refine Token.isNumeralChar_of_isDigit ?_
      simp only [Bool.or_eq_true, Bool.not_eq_true', not_or, Bool.not_eq_false,
        List.all_eq_true] at hdigits
      exact hdigits.2 c hc
    have hrest : ∀ c ∈ rest, Token.isNumeralChar c = true := by
      split at hsign
      · cases hsign
        exact List.forall_mem_cons.mpr ⟨rfl, hall⟩
      · cases hsign
        exact List.forall_mem_cons.mpr ⟨rfl, hall⟩
      · cases hsign
        exact hall
    refine List.forall_mem_cons.mpr ⟨?_, hrest⟩
    rcases hletter with rfl | rfl
    · rfl
    · rfl

theorem isNumeralChar_of_fractionPart?
    {parts : Option (List Char) × Option (Bool × List Char)} (h : fractionPart? text = some parts) :
    ∀ c ∈ text, Token.isNumeralChar c = true := by
  unfold fractionPart? at h
  split at h
  · next rest =>
    dsimp only at h
    split_ifs at h
    obtain ⟨part, hpart, -⟩ := Option.map_eq_some_iff.mp h
    refine List.forall_mem_cons.mpr ⟨rfl, fun c hc => ?_⟩
    rw [← List.takeWhile_append_dropWhile (p := Char.isDigit) (l := rest)] at hc
    rcases List.mem_append.mp hc with hdigit | hend
    · exact Token.isNumeralChar_of_isDigit (List.mem_takeWhile_imp hdigit)
    · exact isNumeralChar_of_exponentPart? hpart c hend
  · obtain ⟨part, hpart, -⟩ := Option.map_eq_some_iff.mp h
    exact isNumeralChar_of_exponentPart? hpart

/-- A literal begins with a digit or a sign and has no character that ends a number. -/
theorem exists_cons_of_ofChars? (h : ofChars? text = some numeral) :
    ∃ first rest, text = first :: rest ∧ (first.isDigit = true ∨ first = '-') ∧
      ∀ c ∈ text, Token.isNumeralChar c = true := by
  obtain ⟨hallowed, hdigits, rest, rfl, hrest⟩ := exists_of_ofChars? h
  obtain ⟨digit, digits, hwhole⟩ : ∃ digit digits, numeral.whole = digit :: digits := by
    cases hwhole : numeral.whole with
    | nil =>
        rw [hwhole] at hallowed
        cases hallowed
    | cons digit digits => exact ⟨digit, digits, rfl⟩
  have hall : ∀ c ∈ numeral.whole ++ rest, Token.isNumeralChar c = true := by
    intro c hc
    rcases List.mem_append.mp hc with hdigit | hend
    · exact Token.isNumeralChar_of_isDigit (hdigits c hdigit)
    · exact isNumeralChar_of_fractionPart? hrest c hend
  rw [List.append_assoc]
  cases numeral.negative with
  | true => exact ⟨'-', _, rfl, .inr rfl, List.forall_mem_cons.mpr ⟨rfl, hall⟩⟩
  | false =>
      rw [hwhole] at hall hdigits ⊢
      exact ⟨digit, _, rfl, .inl (hdigits digit List.mem_cons_self), hall⟩

/-- The literal of an integer that 64 bits hold, which a negative zero is not. -/
structure Fits (numeral : Numeral) : Prop where
  fraction : numeral.fraction = none
  exponent : numeral.exponent = none
  negative : numeral.negative = true →
    0 < digitsValue numeral.whole ∧ digitsValue numeral.whole ≤ 2 ^ 63
  positive : numeral.negative = false → digitsValue numeral.whole < 2 ^ 64

end Numeral

/-- An object whose values are spelled in any way. -/
def objectChars (members : List (String × List Char)) : List Char :=
  '\x7b' :: commaJoin ',' (members.map fun (name, text) => stringChars name ++ ':' :: text) ++
    ['\x7d']

/-- The tokens of an object. -/
def objectTokens (members : List (String × List Token)) : List Token :=
  .openObject ::
    commaJoin .comma (members.map fun (name, tokens) => .string (pieces name) :: .colon :: tokens) ++
    [.closeObject]

namespace Token

/-- A literal is one token. -/
theorem readsAs_literal
    {text : List Char} {numeral : Numeral} (h : Numeral.ofChars? text = some numeral) :
    ReadsAs (Utf8.bytes text) [.number numeral] := by
  have hend : ended? (.numeral text.reverse) = some [.number numeral] := by
    rw [ended?, List.reverse_reverse, h]
    rfl
  obtain ⟨first, rest, rfl, hfirst, hall⟩ := Numeral.exists_cons_of_ofChars? h
  have hstart : Leads .between (Utf8.bytes [first]) [] (.numeral [first]) := by
    rw [Utf8.bytes_cons, Utf8.utf8EncodeChar_of_ascii (ascii_of_isNumeralChar (hall first (by simp)))]
    exact leads_of_step (step?_numeralStart hfirst)
  have hrest := leads_numeralChars (fun c hc => hall c (List.mem_cons_of_mem _ hc)) [first]
  have hwhole : Leads .between (Utf8.bytes (first :: rest)) []
      (.numeral (first :: rest).reverse) := by
    simpa [Utf8.bytes_cons] using hstart.append hrest
  exact readsAs_of_leads hwhole hend

/-- Members whose values are read as these tokens. -/
inductive ReadMembers : List (String × List Char) → List (String × List Token) → Prop
  | nil : ReadMembers [] []
  | cons (name : String) {text : List Char} {tokens : List Token}
      {members : List (String × List Char)} {others : List (String × List Token)}
      (h : ReadsAs (Utf8.bytes text) tokens) (hrest : ReadMembers members others) :
      ReadMembers ((name, text) :: members) ((name, tokens) :: others)

theorem ReadMembers.readsAs
    {members : List (String × List Char)} {tokens : List (String × List Token)}
    (h : ReadMembers members tokens) :
    ReadsAs (Utf8.bytes (objectChars members)) (objectTokens tokens) := by
  refine readsAs_object ?_
  induction h with
  | nil => exact .nil
  | cons name h _ ih => exact .cons (readsAs_member name h) ih

theorem readsAs_string (s : String) :
    ReadsAs (Utf8.bytes (stringChars s)) [.string (Json.pieces s)] :=
  readsAs_of_between (leads_stringChars s)

end Token

namespace Number

variable {w : String} {numeral : Numeral} {n : Number}

/-- The literal that the text of a number is has the parts of the number. -/
theorem numeral_eq_of_text_eq
    (hliteral : Numeral.ofChars? w.toList = some numeral) (h : n.text = w) :
    n.numeral = numeral := by
  rw [← h, ofChars?_text] at hliteral
  exact Option.some.inj hliteral

/-- The text of a number has a small letter and a sign in front of its exponent. -/
theorem toList_eq_chars
    (hliteral : Numeral.ofChars? w.toList = some numeral) (h : n.text = w) :
    w.toList = numeral.chars := by
  rw [← numeral_eq_of_text_eq hliteral h, ← h, toList_text]

theorem fits_numeral_integer (i : Int) (fits : -2 ^ 63 ≤ i ∧ i < 2 ^ 64) :
    (Number.integer i fits).numeral.Fits where
  fraction := rfl
  exponent := rfl
  negative := by
    intro hnegative
    have hi : i < 0 := by simpa [numeral] using hnegative
    simp only [numeral, digitsValue_toDigits]
    omega
  positive := by
    intro hpositive
    have hi : 0 ≤ i := by simpa [numeral] using hpositive
    simp only [numeral, digitsValue_toDigits]
    omega

/-- The number that is read from the literal of an integer of 64 bits. -/
theorem exists_integer_of_fits
    (hvalue : numeral.value? = some n) (hfits : numeral.Fits) :
    ∃ i fits, n = .integer i fits ∧ numeral.negative = decide (i < 0) ∧
      i.natAbs = digitsValue numeral.whole := by
  have hdigits : digitsValueUpTo (2 ^ 64) numeral.whole = digitsValue numeral.whole := by
    refine digitsValueUpTo_of_le ?_
    cases hnegative : numeral.negative with
    | true =>
        have := hfits.negative hnegative
        omega
    | false =>
        have := hfits.positive hnegative
        omega
  have hinteger : ∃ i fits, numeral.toInteger? = some (.integer i fits) ∧
      numeral.negative = decide (i < 0) ∧ i.natAbs = digitsValue numeral.whole := by
    simp only [Numeral.toInteger?, hfits.fraction, hfits.exponent, hdigits, Option.isSome_none,
      Bool.or_self, Bool.false_eq_true, if_false]
    cases hnegative : numeral.negative with
    | true =>
        have hbounds := hfits.negative hnegative
        rw [if_pos rfl, dif_pos (by omega)]
        exact ⟨-(digitsValue numeral.whole : Int), by omega, rfl, by simpa using hbounds.1, by simp⟩
    | false =>
        have hbounds := hfits.positive hnegative
        rw [if_neg (by simp), dif_pos hbounds]
        exact ⟨digitsValue numeral.whole, by omega, rfl, by simp, by simp⟩
  obtain ⟨i, fits, hi, hsign, habs⟩ := hinteger
  rw [Numeral.value?, hi] at hvalue
  exact ⟨i, fits, (Option.some.inj hvalue).symm, hsign, habs⟩

/-- **A literal without point and exponent is kept** exactly if its integer fits. -/
theorem text_eq_iff_fits
    (hliteral : Numeral.ofChars? w.toList = some numeral) (hvalue : numeral.value? = some n)
    (hfraction : numeral.fraction = none) (hexponent : numeral.exponent = none) :
    n.text = w ↔ numeral.Fits := by
  constructor
  · intro h
    have hnumeral := numeral_eq_of_text_eq hliteral h
    cases n with
    | integer i fits => exact hnumeral ▸ fits_numeral_integer i fits
    | double d =>
        have hparts := numeral_double_parts d
        rw [hnumeral] at hparts
        exact absurd hparts (by simp [hfraction, hexponent])
  · intro hfits
    obtain ⟨i, fits, rfl, hsign, habs⟩ := exists_integer_of_fits hvalue hfits
    obtain ⟨hallowed, hdigits, -⟩ := Numeral.exists_of_ofChars? hliteral
    have hnumeral : (Number.integer i fits).numeral = numeral := by
      obtain ⟨negative, whole, fraction, exponent⟩ := numeral
      dsimp only at hfraction hexponent hsign habs hallowed hdigits
      rw [Number.numeral, hsign, hfraction, hexponent, habs, toDigits_digitsValue hallowed hdigits]
    rw [← String.toList_inj, toList_text, hnumeral]
    exact (Numeral.eq_chars_of_ofChars? hliteral hfraction hexponent).symm

/-- The shortest digits end in a digit other than zero. -/
theorem getLast?_digitChars {d : Double} (hpos : 0 < d.mantissa) :
    ∃ c, d.shortest.digitChars.getLast? = some c ∧ c ≠ '0' := by
  refine ⟨_, getLast?_toDigits _, fun hzero => Double.shortest_digits_mod_ten hpos ?_⟩
  exact Nat.digitChar_eq_zero.mp hzero

/-- The decimals of a double end with its last digit, unless they are a single zero. -/
theorem getLast?_fraction
    {d : Decimal} {digits : List Char} {last : Char} (hlast : d.digitChars.getLast? = some last)
    (h : (decimalNumeral d).fraction = some digits) :
    digits = ['0'] ∨ digits.getLast? = some last := by
  have hdrop : ∀ k, k < d.digitChars.length → (d.digitChars.drop k).getLast? = some last := by
    intro k hk
    rw [List.getLast?_drop, if_neg (by omega), hlast]
  unfold decimalNumeral plainNumeral scientificNumeral at h
  dsimp only at h
  split_ifs at h
  · exact .inl (Option.some.inj h).symm
  · exact .inr (Option.some.inj h ▸ hdrop _ (by omega))
  · refine .inr (Option.some.inj h ▸ ?_)
    rw [List.getLast?_append, hlast]
    rfl
  · exact .inr (Option.some.inj h ▸ hdrop _ (by omega))

/-- The decimals of a number do not end in a zero, unless they are a single one. -/
theorem eq_nil_of_fraction_numeral
    {digits : List Char} (h : n.numeral.fraction = some (digits ++ ['0'])) :
    digits = [] := by
  cases n with
  | integer i fits => cases h
  | double d =>
      rcases Nat.eq_zero_or_pos d.mantissa with hzero | hpos
      · have hshortest : d.shortest = ⟨0, 0⟩ := by
          rw [Double.shortest, if_pos hzero]
        rw [numeral, hshortest] at h
        exact List.append_left_eq_self.mp (Option.some.inj h).symm
      · obtain ⟨last, hlast, hne⟩ := getLast?_digitChars hpos
        rcases getLast?_fraction hlast h with hsingle | hend
        · exact List.append_left_eq_self.mp hsingle
        · rw [List.getLast?_concat] at hend
          exact absurd (Option.some.inj hend).symm hne

/-- **A literal with a superfluous zero at the end of its decimals is not kept.** -/
theorem text_ne_of_trailing_zero
    {digits : List Char} (hliteral : Numeral.ofChars? w.toList = some numeral)
    (hzero : numeral.fraction = some (digits ++ ['0'])) (hdigits : digits ≠ []) :
    n.text ≠ w := by
  intro h
  rw [← numeral_eq_of_text_eq hliteral h] at hzero
  exact hdigits (eq_nil_of_fraction_numeral hzero)

end Number

end Json

end WalletEvents
