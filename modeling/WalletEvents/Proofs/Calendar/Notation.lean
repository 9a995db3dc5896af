import WalletEvents.Calendar.Notation
import WalletEvents.Proofs.Text.Digits

/-!
# Written moments are read back

The reader of moments accepts more than the writer writes. Here it is shown that it
reads back what the writer wrote, for every moment of the calendar: with years of
more than four digits or before the year 0, leap seconds, any fraction of a second
and any offset.

Each part of the written form is treated alone: the reader of the part takes it
from the front of the text and leaves the rest. The parts end because the character
behind them is no digit.
-/

namespace WalletEvents

theorem isDigit_padded (width n : Nat) :
    ∀ c ∈ (padded width n).toList, c.isDigit = true := by
  intro c hc
  simp only [padded, String.toList_ofList, List.mem_append, List.mem_replicate] at hc
  rcases hc with ⟨-, rfl⟩ | hdigit
  · rfl
  · exact Nat.isDigit_of_mem_toDigits (by decide) (by decide) hdigit

theorem length_padded
    {width n : Nat} (hwidth : 0 < width) (h : n < 10 ^ width) :
    (padded width n).toList.length = width := by
  have hlength := (Nat.length_toDigits_le_iff (b := 10) (by decide) hwidth).mpr h
  simp only [padded, String.toList_ofList, List.length_append, List.length_replicate]
  omega

theorem padded_ne_nil (width n : Nat) :
    (padded width n).toList ≠ [] := by
  simp [padded, Nat.toDigits_ne_nil]

theorem digitsValue_padded (width n : Nat) :
    digitsValue (padded width n).toList = n := by
  have hzeros : ∀ count, Nat.ofDigitChars 10 (List.replicate count '0') 0 = 0 := by
    intro count
    induction count with
    | zero => rfl
    | succ count ih => rw [List.replicate_succ, Nat.ofDigitChars_cons]; exact ih
  rw [digitsValue_eq, padded, String.toList_ofList, Nat.ofDigitChars_append, hzeros,
    Nat.ofDigitChars_ten_toDigits]

theorem dropBlanks_cons {c : Char} (rest : List Char) (h : isBlank c = false) :
    dropBlanks (c :: rest) = c :: rest := by
  rw [dropBlanks, List.dropWhile_cons_of_neg (by simp [h])]

/-- A padded number begins with a digit. -/
theorem padded_eq_cons (width n : Nat) :
    ∃ c digits, (padded width n).toList = c :: digits ∧ c.isDigit = true := by
  obtain ⟨c, digits, hcons⟩ := List.exists_cons_of_ne_nil (padded_ne_nil width n)
  exact ⟨c, digits, hcons, isDigit_padded width n c (hcons ▸ List.mem_cons_self)⟩

theorem dropBlanks_padded (width n : Nat) (rest : List Char) :
    dropBlanks ((padded width n).toList ++ rest) = (padded width n).toList ++ rest := by
  obtain ⟨c, digits, hcons, hc⟩ := padded_eq_cons width n
  rw [hcons, List.cons_append, dropBlanks_cons _ (isBlank_of_isDigit hc)]

namespace Moment

variable {rest : List Char}

/-- A padded number is read back from the front of a text. -/
theorem number?_padded
    {most : Option Nat} {width n : Nat} (hrest : EndsDigits rest) (hn : n ≤ beyondYears)
    (hmost : ∀ limit, most = some limit → (padded width n).toList.length ≤ limit) :
    number? most ((padded width n).toList ++ rest) = some (n, rest) := by
  have hvalue : digitsValueUpTo beyondYears (padded width n).toList = n := by
    rw [digitsValueUpTo_of_le (by rwa [digitsValue_padded]), digitsValue_padded]
  have hempty : (padded width n).toList.isEmpty = false :=
    List.isEmpty_eq_false_iff.mpr (padded_ne_nil width n)
  unfold number?
  rw [takeWhile_digits (isDigit_padded width n) hrest]
  cases most with
  | none => simp only [hempty, hvalue, List.drop_left, Bool.false_eq_true, if_false]
  | some limit =>
      simp only [List.take_of_length_le (hmost limit rfl), hempty, hvalue, List.drop_left,
        Bool.false_eq_true, if_false]

theorem twoDigits?_padded
    {n : Nat} (hn : n < 100) (hrest : EndsDigits rest) :
    twoDigits? ((padded 2 n).toList ++ rest) = some (n, rest) := by
  rw [twoDigits?, dropBlanks_padded]
  refine number?_padded hrest (by rw [beyondYears]; omega) ?_
  rintro _ ⟨⟩
  exact Nat.le_of_eq (length_padded (by decide) hn)

theorem separator?_cons {c : Char} (rest : List Char) (h : isBlank c = false) :
    separator? c (c :: rest) = some rest := by
  rw [separator?, dropBlanks_cons rest h]
  exact if_pos rfl

/-- The year, with a sign unless it has four digits. -/
def yearText (year : Int) : String :=
  if 0 ≤ year ∧ year ≤ 9999 then padded 4 year.toNat
  else (if year < 0 then "-" else "+") ++ padded 4 year.natAbs

theorem year?_yearText
    {year : Int} (hyear : year.natAbs ≤ beyondYears) (hrest : EndsDigits rest) :
    year? ((yearText year).toList ++ rest) = some (year, rest) := by
  unfold yearText
  split
  · rename_i hfour
    have hnumber : number? (some 4) ((padded 4 year.toNat).toList ++ rest) =
        some (year.toNat, rest) := by
      refine number?_padded hrest (by omega) ?_
      rintro _ ⟨⟩
      exact Nat.le_of_eq (length_padded (by decide) (by omega))
    unfold year?
    rw [dropBlanks_padded]
    obtain ⟨c, digits, hcons, hc⟩ := padded_eq_cons 4 year.toNat
    rw [hcons, List.cons_append] at hnumber ⊢
    split
    · rename_i heq
      obtain ⟨rfl, -⟩ := List.cons.inj heq
      exact absurd hc (by decide)
    · rename_i heq
      obtain ⟨rfl, -⟩ := List.cons.inj heq
      exact absurd hc (by decide)
    · simp only [hnumber, Option.map_some, Int.toNat_of_nonneg hfour.1]
  · rename_i hfour
    have hnumber : number? none ((padded 4 year.natAbs).toList ++ rest) =
        some (year.natAbs, rest) :=
      number?_padded hrest hyear (by simp)
    have hminus : "-".toList = ['-'] := rfl
    have hplus : "+".toList = ['+'] := rfl
    rw [String.toList_append, List.append_assoc]
    split
    · have hvalue : -(year.natAbs : Int) = year := by omega
      rw [hminus, List.singleton_append, year?, dropBlanks_cons _ (by decide)]
      simp only [hnumber, Option.map_some, hvalue]
    · have hvalue : (year.natAbs : Int) = year := by omega
      rw [hplus, List.singleton_append, year?, dropBlanks_cons _ (by decide)]
      simp only [hnumber, Option.map_some, hvalue]

/-- **A written date is read back.** -/
theorem readDate?_writeDate
    (date : Date) (hrest : EndsDigits rest) :
    readDate? ((writeDate date.year date.month date.day).toList ++ rest) = some (date, rest) := by
  obtain ⟨year, month, day, hexists⟩ := date
  have hcivil : Date.ofCivil? year month day = some ⟨year, month, day, hexists⟩ := dif_pos hexists
  have ⟨hfirst, hlast, _, hmonth, _, hday⟩ := hexists
  have hdays : daysInMonth year month ≤ 31 := by
    unfold daysInMonth
    split
    · split <;> omega
    all_goals omega
  have htext : (writeDate year month day).toList ++ rest =
      (yearText year).toList ++ '-' :: ((padded 2 month).toList ++
        '-' :: ((padded 2 day).toList ++ rest)) := by
    simp [writeDate, yearText]
  have hyear : year.natAbs ≤ beyondYears := by
    unfold firstYear at hfirst
    unfold lastYear at hlast
    unfold beyondYears
    omega
  have hdash : ∀ text, EndsDigits ('-' :: text) := fun text => endsDigits_cons text (by decide)
  have hsep : ∀ text, separator? '-' ('-' :: text) = some text :=
    fun text => separator?_cons text (by decide)
  dsimp only
  rw [htext, readDate?, year?_yearText hyear (hdash _)]
  simp only [Option.bind_eq_bind, Option.bind_some, hsep]
  rw [twoDigits?_padded (by omega) (hdash _)]
  simp only [Option.bind_some, hsep]
  rw [twoDigits?_padded (by omega) hrest]
  simp only [Option.bind_some, hcivil]

/-- The offset with which a written moment ends. -/
theorem endsDigits_writeOffset (zero : ZeroOffset) (offset : Int) :
    EndsDigits (writeOffset zero offset).toList ∧
      ∀ rest, (writeOffset zero offset).toList ≠ '.' :: rest := by
  unfold writeOffset
  split
  · exact ⟨endsDigits_cons [] (by decide), by simp⟩
  · split
    · simp [EndsDigits]
    · simp [EndsDigits]

/-- The digits of a fraction are read as nanoseconds. -/
theorem fraction?_padded
    {width n : Nat} (hwidth : 0 < width) (hnine : width ≤ 9) (hn : n < 10 ^ width)
    (hrest : EndsDigits rest) :
    fraction? ('.' :: ((padded width n).toList ++ rest)) = some (n * 10 ^ (9 - width), rest) := by
  have hlength := length_padded hwidth hn
  have hempty : (padded width n).toList.isEmpty = false :=
    List.isEmpty_eq_false_iff.mpr (padded_ne_nil width n)
  unfold fraction?
  simp only [takeWhile_digits (isDigit_padded width n) hrest, hempty,
    dropWhile_digits (isDigit_padded width n) hrest, Bool.false_eq_true, if_false]
  rw [List.take_of_length_le (by omega), digitsValue_padded, hlength]

/-- A fraction is read back as the nanoseconds within the second. -/
theorem fraction?_writeFraction
    (nano : Nat) (hrest : EndsDigits rest) (hpoint : ∀ text, rest ≠ '.' :: text) :
    fraction? ((writeFraction nano).toList ++ rest) = some (nano % 1000000000, rest) := by
  have hwithin : nano % 1000000000 < 1000000000 := Nat.mod_lt _ (by decide)
  unfold writeFraction
  generalize nano % 1000000000 = within at hwithin ⊢
  have hpadded : ∀ width n, 0 < width → width ≤ 9 → n < 10 ^ width → n * 10 ^ (9 - width) = within →
      fraction? (("." ++ padded width n).toList ++ rest) = some (within, rest) := by
    intro width n hwidth hnine hn hvalue
    have hdot : ".".toList = ['.'] := rfl
    rw [String.toList_append, List.append_assoc, hdot, List.singleton_append,
      fraction?_padded hwidth hnine hn hrest, hvalue]
  dsimp only
  split
  · rename_i hzero
    unfold fraction?
    split
    · rename_i heq
      exact absurd heq (hpoint _)
    · rw [hzero]
      rfl
  · split
    · exact hpadded 3 _ (by decide) (by decide) (by omega) (by omega)
    · split
      · exact hpadded 6 _ (by decide) (by decide) (by omega) (by omega)
      · exact hpadded 9 _ (by decide) (by decide) (by omega) (by omega)

theorem endsDigits_writeFraction (nano : Nat) (hrest : EndsDigits rest) :
    EndsDigits ((writeFraction nano).toList ++ rest) := by
  have hpoint : ∀ text : String, EndsDigits (("." ++ text).toList ++ rest) := by
    intro text
    rw [String.toList_append, List.append_assoc]
    exact endsDigits_cons _ (by decide)
  unfold writeFraction
  dsimp only
  split
  · exact hrest
  · split
    · exact hpoint _
    · split
      · exact hpoint _
      · exact hpoint _

/-- **A written time is read back**, a leap second as such. -/
theorem readTime?_writeTime
    {second nano : Nat} (hsecond : second < 86400) (hfits : NanoFits second nano)
    (hrest : EndsDigits rest) (hpoint : ∀ text, rest ≠ '.' :: text) :
    readTime? ((writeTime second nano).toList ++ ((writeFraction nano).toList ++ rest)) =
      some ((second, nano), rest) := by
  have hcolon : ∀ text, EndsDigits (':' :: text) := fun text => endsDigits_cons text (by decide)
  have hsep : ∀ text, separator? ':' (':' :: text) = some text :=
    fun text => separator?_cons text (by decide)
  have hfraction := fraction?_writeFraction nano hrest hpoint
  have hends := endsDigits_writeFraction nano hrest
  generalize (writeFraction nano).toList ++ rest = text at hfraction hends ⊢
  have htext : (writeTime second nano).toList ++ text =
      (padded 2 (second / 3600)).toList ++ ':' :: ((padded 2 (second / 60 % 60)).toList ++
        ':' :: ((padded 2 (second % 60 + if 1000000000 ≤ nano then 1 else 0)).toList ++ text)) := by
    simp [writeTime]
  rw [htext, readTime?, twoDigits?_padded (by omega) (hcolon _)]
  simp only [Option.bind_eq_bind, Option.bind_some, hsep]
  rw [twoDigits?_padded (by omega) (hcolon _)]
  simp only [Option.bind_some, hsep]
  rw [twoDigits?_padded (by split <;> omega) hends]
  simp only [Option.bind_some, hfraction]
  by_cases hleap : 1000000000 ≤ nano
  · have hlast : second % 60 = 59 ∧ nano < 2000000000 := by
      unfold NanoFits at hfits
      omega
    have hshown : second / 3600 * 3600 + second / 60 % 60 * 60 + 59 = second := by omega
    have hnano : nano % 1000000000 + 1000000000 = nano := by omega
    rw [if_pos hleap, if_neg (by omega), if_pos (by omega), hshown, hnano]
  · have hshown : second / 3600 * 3600 + second / 60 % 60 * 60 + (second % 60 + 0) = second := by
      omega
    have hnano : nano % 1000000000 = nano := by omega
    rw [if_neg hleap, if_neg (by omega), if_neg (by omega), hshown, hnano]

theorem offsetDigits?_padded
    {hours minutes : Nat} (hhours : hours < 100) (hminutes : minutes < 60) :
    offsetDigits? ((padded 2 hours).toList ++ ':' :: (padded 2 minutes).toList) =
      some (((hours * 60 + minutes : Nat) : Int), []) := by
  have hvalue := digitsValue_padded 2 hours
  have hvalue' := digitsValue_padded 2 minutes
  have hdigit := isDigit_padded 2 hours
  have hdigit' := isDigit_padded 2 minutes
  obtain ⟨h, h', hlist⟩ := List.length_eq_two.mp (@length_padded 2 hours (by decide) hhours)
  obtain ⟨m, m', hlist'⟩ := List.length_eq_two.mp (@length_padded 2 minutes (by decide) (by omega))
  rw [hlist] at hvalue hdigit ⊢
  rw [hlist'] at hvalue' hdigit' ⊢
  have hm : m.isDigit = true := hdigit' m (by simp)
  have hnext : [':', m, m'].dropWhile (fun c => c = ':' || isBlank c) = [m, m'] := by
    have hcolon : m ≠ ':' := by
      rintro rfl
      exact absurd hm (by decide)
    simp [isBlank_of_isDigit hm, hcolon]
  have hsixty : m.toNat < 54 := by
    have hsum : (m.toNat - 48) * 10 + (m'.toNat - 48) = minutes := by
      simpa [digitsValue] using hvalue'
    omega
  unfold offsetDigits?
  simp only [List.cons_append, List.nil_append]
  rw [hnext]
  simp [hdigit, hdigit', hsixty, hvalue, hvalue']

theorem readOffset?_writeOffset
    {offset : Int} (hlow : -1440 < offset) (hhigh : offset < 1440) :
    readOffset? (writeOffset .letter offset).toList = some (offset, []) := by
  have hdigits := @offsetDigits?_padded (offset.natAbs / 60) (offset.natAbs % 60)
    (by omega) (by omega)
  have hsum : offset.natAbs / 60 * 60 + offset.natAbs % 60 = offset.natAbs := by omega
  rw [hsum] at hdigits
  unfold writeOffset
  split
  · rename_i hzero
    rw [hzero.1]
    rfl
  · have htext : ∀ sign : String, (sign ++ padded 2 (offset.natAbs / 60) ++ ":" ++
        padded 2 (offset.natAbs % 60)).toList = sign.toList ++
          ((padded 2 (offset.natAbs / 60)).toList ++
            ':' :: (padded 2 (offset.natAbs % 60)).toList) := by
      simp
    rw [htext]
    generalize (padded 2 (offset.natAbs / 60)).toList ++
      ':' :: (padded 2 (offset.natAbs % 60)).toList = written at hdigits ⊢
    have hminus : "-".toList = ['-'] := rfl
    have hplus : "+".toList = ['+'] := rfl
    split
    · have hvalue : -(offset.natAbs : Int) = offset := by omega
      rw [hminus, List.singleton_append, readOffset?, dropBlanks_cons _ (by decide)]
      simp only [hdigits, Option.map_some, hvalue]
    · have hvalue : (offset.natAbs : Int) = offset := by omega
      rw [hplus, List.singleton_append, readOffset?, dropBlanks_cons _ (by decide)]
      simp only [hdigits, hvalue]

/-- **A written moment is read back.** -/
theorem read?_text (m : Moment) :
    read? (m.text .letter) = some m := by
  obtain ⟨date, second, nano, offset, hvalid⟩ := m
  have ⟨hsecond, hfits, hlow, hhigh, _⟩ := hvalid
  have hparts : ofParts? date second nano offset = some ⟨date, second, nano, offset, hvalid⟩ :=
    dif_pos hvalid
  obtain ⟨hends, hpoint⟩ := endsDigits_writeOffset .letter offset
  have htime := readTime?_writeTime hsecond hfits hends hpoint
  have htext : (text .letter ⟨date, second, nano, offset, hvalid⟩).toList =
      (writeDate date.year date.month date.day).toList ++ 'T' :: ((writeTime second nano).toList ++
        ((writeFraction nano).toList ++ (writeOffset .letter offset).toList)) := by
    simp [text]
  rw [read?, htext, readDate?_writeDate date (endsDigits_cons _ (by decide))]
  simp only [Option.bind_eq_bind, Option.bind_some, true_or, if_true, htime,
    readOffset?_writeOffset hlow hhigh, hparts]
  rfl

end Moment

end WalletEvents
