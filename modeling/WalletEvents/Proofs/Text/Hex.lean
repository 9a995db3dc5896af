import WalletEvents.Text.Blank
import WalletEvents.Text.Hex
import Mathlib.Data.Bool.AllAny
import Mathlib.Data.List.Basic
import Mathlib.Tactic.IntervalCases

/-!
# Digits in base 16

The digits that bytes are written with are read as the bytes, and there is
neither a blank nor a control character among them. Apart from the case of
letters, bytes are read from no other text (`Hex.decode?_eq_some_iff`).
-/

namespace WalletEvents

/-- The texts are the same up to the case of their letters. -/
def SameLetters (text other : List Char) : Prop := text.map Char.toLower = other.map Char.toLower

/-- The characters of a run of codes. -/
def codeRun (first count : Nat) : List Char := (List.range' first count).map Char.ofNat

theorem mem_codeRun
    {first count : Nat} {c : Char} (hlow : first ≤ c.toNat) (hhigh : c.toNat < first + count) :
    c ∈ codeRun first count :=
  List.mem_map.mpr ⟨c.toNat, List.mem_range'_1.mpr ⟨hlow, hhigh⟩, Char.ofNat_toNat c⟩

namespace Hex

theorem value?_digit
    {n : Nat} (hn : n < 16) :
    value? (digit n) = some n := by
  interval_cases n <;> rfl

theorem decodeChars?_encodeByte (b : UInt8) (rest : List Char) :
    decodeChars? (encodeByte b ++ rest) = (decodeChars? rest).map (b :: ·) := by
  have hb : b.toNat < 256 := b.toNat_lt_size
  have hhigh := value?_digit (show b.toNat / 16 < 16 by omega)
  have hlow := value?_digit (show b.toNat % 16 < 16 by omega)
  have hbyte : (b.toNat / 16 * 16 + b.toNat % 16).toUInt8 = b := by
    rw [Nat.div_add_mod']
    exact UInt8.ofNat_toNat
  cases hrest : decodeChars? rest with
  | none => simp [encodeByte, decodeChars?, hhigh, hlow, hrest]
  | some bytes =>
      simp only [encodeByte, List.cons_append, List.nil_append, decodeChars?, hhigh, hlow, hrest,
        Option.bind_eq_bind, Option.bind_some, hbyte, Option.map_some]

/-- **Bytes are read from their digits.** -/
theorem decode?_encode (bytes : List UInt8) :
    decode? (encode bytes) = some bytes := by
  unfold decode? encode
  rw [String.toList_ofList]
  induction bytes with
  | nil => rfl
  | cons b rest ih => simp [decodeChars?_encodeByte, ih]

theorem digit_mem_encode
    {bytes : List UInt8} {c : Char} (hc : c ∈ (encode bytes).toList) :
    ∃ n, n < 16 ∧ c = digit n := by
  simp only [encode, String.toList_ofList, List.mem_flatMap] at hc
  obtain ⟨b, -, hc⟩ := hc
  have hb : b.toNat < 256 := b.toNat_lt_size
  simp only [encodeByte, List.mem_cons, List.not_mem_nil, or_false] at hc
  rcases hc with rfl | rfl
  · exact ⟨b.toNat / 16, by omega, rfl⟩
  · exact ⟨b.toNat % 16, by omega, rfl⟩

theorem length_encode (bytes : List UInt8) :
    (encode bytes).toList.length = 2 * bytes.length := by
  rw [encode, String.toList_ofList, List.length_flatMap]
  simp [encodeByte, Nat.mul_comm]

theorem digit_visible
    {n : Nat} (hn : n < 16) :
    32 ≤ (digit n).toNat ∧ (digit n).toNat < 127 ∧ isBlank (digit n) = false := by
  interval_cases n <;> decide

/-- The digits of base 16, in both cases. -/
def digits : List Char := "0123456789abcdefABCDEF".toList

theorem mem_digits_of_value?
    {c : Char} {n : Nat} (h : value? c = some n) :
    c ∈ digits := by
  have hruns : ∀ c ∈ codeRun 48 10 ++ codeRun 97 6 ++ codeRun 65 6, c ∈ digits :=
    List.all_iff_forall_prop.mp (by decide)
  apply hruns
  unfold value? at h
  simp only [Char.le_def, UInt32.le_iff_toNat_le] at h
  split_ifs at h with h0 ha hA
  · exact List.mem_append_left _ (List.mem_append_left _
      (mem_codeRun h0.1 (Nat.lt_succ_of_le h0.2)))
  · exact List.mem_append_left _ (List.mem_append_right _
      (mem_codeRun ha.1 (Nat.lt_succ_of_le ha.2)))
  · exact List.mem_append_right _ (mem_codeRun hA.1 (Nat.lt_succ_of_le hA.2))

theorem mem_digits_of_toLower
    {c : Char} {n : Nat} (hn : n < 16) (h : c.toLower = digit n) :
    c ∈ digits := by
  by_cases hupper : c.val ≥ 'A'.val ∧ c.val ≤ 'Z'.val
  · have hletters : ∀ c ∈ codeRun 65 26, ∀ n < 16, c.toLower = digit n → c ∈ digits :=
      List.all_iff_forall_prop.mp (by decide)
    have hlow : 65 ≤ c.toNat := UInt32.le_iff_toNat_le.mp hupper.1
    have hhigh : c.toNat ≤ 90 := UInt32.le_iff_toNat_le.mp hupper.2
    exact hletters c (mem_codeRun hlow (Nat.lt_succ_of_le hhigh)) n hn h
  · have hsame : c.toLower = c := dif_neg hupper
    rw [hsame] at h
    have hdigits : ∀ n < 16, digit n ∈ digits := by
      decide
    exact h ▸ hdigits n hn

theorem value?_eq_some_iff {c : Char} {n : Nat} :
    value? c = some n ↔ n < 16 ∧ c.toLower = digit n := by
  have hread : ∀ c ∈ digits, ∃ n < 16, value? c = some n ∧ c.toLower = digit n :=
    List.all_iff_forall_prop.mp (by decide)
  constructor
  · intro h
    obtain ⟨m, hm, hvalue, hlower⟩ := hread c (mem_digits_of_value? h)
    obtain rfl : m = n := Option.some.inj (hvalue.symm.trans h)
    exact ⟨hm, hlower⟩
  · rintro ⟨hn, hlower⟩
    obtain ⟨m, hm, hvalue, hlower'⟩ := hread c (mem_digits_of_toLower hn hlower)
    have hsame : some m = some n := by
      rw [← value?_digit hm, ← value?_digit hn, ← hlower, ← hlower']
    rw [hvalue, hsame]

/-- The digits of bytes are small ones. -/
theorem toLower_digit {n : Nat} (hn : n < 16) :
    (digit n).toLower = digit n :=
  (value?_eq_some_iff.mp (value?_digit hn)).2

/-- A byte is read from two characters exactly if these are its digits in either case. -/
theorem value?_pair_iff {high low : Char} {b : UInt8} :
    (∃ x, value? high = some x ∧ ∃ y, value? low = some y ∧ (x * 16 + y).toUInt8 = b) ↔
      [high.toLower, low.toLower] = encodeByte b := by
  have hb : b.toNat < 256 := b.toNat_lt_size
  simp only [value?_eq_some_iff, encodeByte, List.cons.injEq, and_true]
  constructor
  · rintro ⟨x, ⟨hx, hhigh⟩, y, ⟨hy, hlow⟩, rfl⟩
    have hbyte : (x * 16 + y).toUInt8.toNat = x * 16 + y := by
      simp
      omega
    rw [hbyte, hhigh, hlow]
    constructor <;> congr 1 <;> omega
  · rintro ⟨hhigh, hlow⟩
    refine ⟨b.toNat / 16, ⟨by omega, hhigh⟩, b.toNat % 16, ⟨by omega, hlow⟩, ?_⟩
    rw [Nat.div_add_mod']
    exact UInt8.ofNat_toNat

theorem decodeChars?_cons_cons_iff {high low : Char} {rest : List Char} {bytes : List UInt8} :
    decodeChars? (high :: low :: rest) = some bytes ↔
      ∃ b others, bytes = b :: others ∧ [high.toLower, low.toLower] = encodeByte b ∧
        decodeChars? rest = some others := by
  simp only [decodeChars?, Option.bind_eq_bind, Option.bind_eq_some_iff, Option.some.injEq]
  constructor
  · rintro ⟨x, hx, y, hy, others, hothers, rfl⟩
    exact ⟨_, others, rfl, value?_pair_iff.mp ⟨x, hx, y, hy, rfl⟩, hothers⟩
  · rintro ⟨b, others, rfl, hpair, hothers⟩
    obtain ⟨x, hx, y, hy, rfl⟩ := value?_pair_iff.mpr hpair
    exact ⟨x, hx, y, hy, others, hothers, rfl⟩

theorem decodeChars?_eq_some_iff {text : List Char} {bytes : List UInt8} :
    decodeChars? text = some bytes ↔ text.map Char.toLower = bytes.flatMap encodeByte := by
  fun_induction decodeChars? text generalizing bytes with
  | case1 => cases bytes <;> simp [encodeByte]
  | case2 c => cases bytes <;> simp [encodeByte]
  | case3 high low rest ih =>
      have hchars : (high :: low :: rest).map Char.toLower =
          [high.toLower, low.toLower] ++ rest.map Char.toLower := rfl
      rw [← decodeChars?, decodeChars?_cons_cons_iff, hchars]
      constructor
      · rintro ⟨b, others, rfl, hpair, hothers⟩
        rw [List.flatMap_cons, hpair, ih.mp hothers]
      · intro h
        cases bytes with
        | nil => cases h
        | cons b others =>
            obtain ⟨hpair, hothers⟩ := List.append_inj h rfl
            exact ⟨b, others, rfl, hpair, ih.mpr hothers⟩

/-- **Bytes are read from their digits** in either case, and from nothing else. -/
theorem decode?_eq_some_iff {text : String} {bytes : List UInt8} :
    decode? text = some bytes ↔ text.toList.map Char.toLower = (encode bytes).toList := by
  rw [decode?, decodeChars?_eq_some_iff, encode, String.toList_ofList]

end Hex

theorem dropBlanks_of_visible
    {text : List Char} (h : ∀ c ∈ text, isBlank c = false) :
    dropBlanks text = text := by
  cases text with
  | nil => rfl
  | cons c rest => simp [dropBlanks, h c (by simp)]

/-- A text without blanks has none at its ends. -/
theorem trimText_of_visible
    {text : String} (h : ∀ c ∈ text.toList, isBlank c = false) :
    trimText text = text := by
  unfold trimText trimBlanks
  rw [dropBlanks_of_visible h, dropBlanks_of_visible (by simpa using h), List.reverse_reverse,
    String.ofList_toList]

end WalletEvents
