import WalletEvents.Calendar.Moment
import WalletEvents.Double.Reader
import WalletEvents.Text.Blank

/-!
# The written form of moments

**Writing.** A moment is written as date, `T`, time and offset, with no fraction or the shortest one
of three, six or nine digits that is exact. Years outside 0 to 9999 carry a sign and have at least
four digits. The offset zero is written `Z` or `+00:00`, as the caller asks.

**Reading.** The reader is more liberal than the writer. Blanks may stand before every number, before
every separator inside the date and inside the time, before the offset and at the end; numbers may
lack leading zeros; the offset may also be a word or have other separators. A day that the calendar
does not have, or an instant outside it, is refused.
-/

namespace WalletEvents

/-- The digits of a number, with zeros in front up to a width. -/
def padded (width n : Nat) : String :=
  let digits := Nat.toDigits 10 n
  String.ofList (List.replicate (width - digits.length) '0' ++ digits)

/-- How the offset zero is written. -/
inductive ZeroOffset where
  | letter
  | digits
  deriving DecidableEq

/-- The year, month and day, with a sign for years outside 0 to 9999. -/
def writeDate (year : Int) (month day : Nat) : String :=
  let yearText :=
    if 0 ≤ year ∧ year ≤ 9999 then padded 4 year.toNat
    else (if year < 0 then "-" else "+") ++ padded 4 year.natAbs
  yearText ++ "-" ++ padded 2 month ++ "-" ++ padded 2 day

/-- Hours, minutes and seconds; the sixtieth second is a leap second. -/
def writeTime (second nano : Nat) : String :=
  let shown := second % 60 + (if 1000000000 ≤ nano then 1 else 0)
  padded 2 (second / 3600) ++ ":" ++ padded 2 (second / 60 % 60) ++ ":" ++ padded 2 shown

/-- The shortest exact fraction of none, three, six or nine digits. -/
def writeFraction (nano : Nat) : String :=
  let nano := nano % 1000000000
  if nano = 0 then ""
  else if nano % 1000000 = 0 then "." ++ padded 3 (nano / 1000000)
  else if nano % 1000 = 0 then "." ++ padded 6 (nano / 1000)
  else "." ++ padded 9 nano

/-- The offset in hours and minutes. -/
def writeOffset (zero : ZeroOffset) (offset : Int) : String :=
  if offset = 0 ∧ zero = .letter then "Z"
  else
    (if offset < 0 then "-" else "+") ++ padded 2 (offset.natAbs / 60) ++ ":" ++
      padded 2 (offset.natAbs % 60)

def Moment.text (zero : ZeroOffset) (m : Moment) : String :=
  writeDate m.date.year m.date.month m.date.day ++ "T" ++ writeTime m.second m.nano ++
    writeFraction m.nano ++ writeOffset zero m.offset

namespace Instant

/-- The date and the time of an instant in universal time, without a fraction. -/
def secondText (t : Instant) : String :=
  let (year, month, day) := civilOfDay (t.second / 86400)
  writeDate year month day ++ "T" ++ writeTime (t.second % 86400).toNat t.nano

/-- The written form of an instant in universal time. -/
def text (t : Instant) : String := t.secondText ++ writeFraction t.nano ++ "+00:00"

/-- The written form of an instant in universal time, in whole seconds. -/
def wholeSecondText (t : Instant) : String := t.secondText ++ "+00:00"

end Instant

namespace Moment

/-- A number that is greater than all that a date or a time is made of; greater ones need not be told from
it. -/
def beyondYears : Nat := 10 ^ 6

/-- A run of one to `most` digits, or of any length, and what follows it. -/
def number? (most : Option Nat) (text : List Char) : Option (Nat × List Char) :=
  let digits := text.takeWhile Char.isDigit
  let digits := match most with
    | some most => digits.take most
    | none => digits
  if digits.isEmpty then none
  else some (digitsValueUpTo beyondYears digits, text.drop digits.length)

/-- The year: a sign with any number of digits, or one to four digits. -/
def year? (text : List Char) : Option (Int × List Char) :=
  match dropBlanks text with
  | '-' :: rest => (number? none rest).map fun (n, rest) => (-(n : Int), rest)
  | '+' :: rest => (number? none rest).map fun (n, rest) => ((n : Int), rest)
  | rest => (number? (some 4) rest).map fun (n, rest) => ((n : Int), rest)

/-- A number of one or two digits after blanks. -/
def twoDigits? (text : List Char) : Option (Nat × List Char) := number? (some 2) (dropBlanks text)

/-- What follows a separator after blanks. -/
def separator? (c : Char) (text : List Char) : Option (List Char) :=
  match dropBlanks text with
  | c' :: rest => if c' = c then some rest else none
  | [] => none

/-- Year, month and day. -/
def readDate? (text : List Char) : Option (Date × List Char) := do
  let (year, rest) ← year? text
  let (month, rest) ← twoDigits? (← separator? '-' rest)
  let (day, rest) ← twoDigits? (← separator? '-' rest)
  some (← Date.ofCivil? year month day, rest)

/-- The nanoseconds of a fraction with its point, if there is one; digits after the ninth are dropped. -/
def fraction? : List Char → Option (Nat × List Char)
  | '.' :: rest =>
    let digits := rest.takeWhile Char.isDigit
    if digits.isEmpty then none
    else
      let kept := digits.take 9
      some (digitsValue kept * 10 ^ (9 - kept.length), rest.dropWhile Char.isDigit)
  | rest => some (0, rest)

/-- Hour, minute, second and fraction, as the second of the day and its nanoseconds. -/
def readTime? (text : List Char) : Option ((Nat × Nat) × List Char) := do
  let (hour, rest) ← twoDigits? text
  let (minute, rest) ← twoDigits? (← separator? ':' rest)
  let (second, rest) ← twoDigits? (← separator? ':' rest)
  let (nano, rest) ← fraction? rest
  if 24 ≤ hour ∨ 60 ≤ minute ∨ 61 ≤ second then none
  else if second = 60 then some ((hour * 3600 + minute * 60 + 59, nano + 1000000000), rest)
  else some ((hour * 3600 + minute * 60 + second, nano), rest)

/-- Two digits of hours, separators, and two digits of minutes below sixty. -/
def offsetDigits? : List Char → Option (Int × List Char)
  | h :: h' :: rest =>
    match rest.dropWhile fun c => c = ':' || isBlank c with
    | m :: m' :: rest =>
      if h.isDigit && h'.isDigit && m.isDigit && m'.isDigit && m.toNat < '6'.toNat then
        some ((digitsValue [h, h'] * 60 + digitsValue [m, m'] : Nat), rest)
      else none
    | _ => none
  | _ => none

/-- The offset in minutes: `Z`, `UTC` in any case, or a sign and digits. -/
def readOffset? (text : List Char) : Option (Int × List Char) :=
  match dropBlanks text with
  | 'Z' :: rest => some (0, rest)
  | 'z' :: rest => some (0, rest)
  | '+' :: rest => offsetDigits? rest
  | '-' :: rest => (offsetDigits? rest).map fun (minutes, rest) => (-minutes, rest)
  | '\u2212' :: rest => (offsetDigits? rest).map fun (minutes, rest) => (-minutes, rest)
  | u :: t :: c :: rest =>
    if u.toLower = 'u' ∧ t.toLower = 't' ∧ c.toLower = 'c' then some (0, rest) else none
  | _ => none

def read? (text : String) : Option Moment := do
  let (date, rest) ← readDate? text.toList
  match rest with
  | separator :: rest =>
    if separator = 'T' ∨ separator = 't' ∨ separator = ' ' then
      let ((second, nano), rest) ← readTime? rest
      let (offset, rest) ← readOffset? rest
      if (dropBlanks rest).isEmpty then ofParts? date second nano offset else none
    else none
  | [] => none

end Moment

end WalletEvents
