import WalletEvents.Text.Hex
import WalletEvents.Text.Split

/-!
# Tables of code points

What is known of single characters is kept in tables that are written as rows with spaces or line breaks
between them. Code points are in base 16.

**Ranges** are written as `41-5a`, or as `b5` for a single code point.

**Rows** say which numbers go with the code points of a range, behind a colon and with points between them.
The numbers stand for the first code point and grow with the others, as in `41-5a:61`, which is why a row
with several numbers is for one code point only. A row may be for every second code point of its range, as in
`100-12e/2:101`. In a table of classes, the number is the class of all code points of the range.
-/

namespace WalletEvents

namespace Codes

/-- The number that digits of base 16 stand for. -/
def number (digits : List Char) : Nat :=
  digits.foldl (fun n c => n * 16 + (Hex.value? c).getD 0) 0

/-- What stands before the first separator, and what stands behind it, if there is one. -/
def cut (separator : Char) (text : List Char) : List Char × List Char :=
  (text.takeWhile (· != separator), (text.dropWhile (· != separator)).drop 1)

/-- The first and the last code point of a range. -/
def range (text : List Char) : Nat × Nat :=
  let (first, last) := cut '-' text
  (number first, if last.isEmpty then number first else number last)

/-- Numbers with points between them. -/
def numbers (text : List Char) : List Nat := if text.isEmpty then [] else (splitAll '.' text).map number

/-- The rows of a table. -/
def rows (text : String) : List (List Char) :=
  (splitAll ' ' (text.toList.map fun c => if c = '\n' then ' ' else c)).filter fun row => !row.isEmpty

end Codes

/-- Ranges of code points: the first and the last one of each. -/
structure CodeRanges where
  ranges : List (Nat × Nat)
  deriving DecidableEq

namespace CodeRanges

/-- The ranges that are written in a text. -/
def read (text : String) : CodeRanges := ⟨(Codes.rows text).map Codes.range⟩

/-- Whether a code point lies in one of the ranges. -/
def contains (r : CodeRanges) (code : Nat) : Bool :=
  r.ranges.any fun (first, last) => first ≤ code && code ≤ last

end CodeRanges

/-- A row of a table: the numbers that go with the first code point, and every how many there is one. -/
structure CodeRow where
  first : Nat
  last : Nat
  step : Nat
  values : List Nat
  deriving DecidableEq

namespace CodeRow

/-- The row that is written in a text. -/
def read (text : List Char) : CodeRow :=
  let (range, values) := Codes.cut ':' text
  let (range, step) := Codes.cut '/' range
  let (first, last) := Codes.range range
  ⟨first, last, if step.isEmpty then 1 else Codes.number step, Codes.numbers values⟩

/-- Whether the row is for a code point. -/
def covers (r : CodeRow) (code : Nat) : Bool :=
  r.first ≤ code && code ≤ r.last && (code - r.first) % r.step == 0

/-- The numbers that go with a code point of the row. -/
def valuesOf (r : CodeRow) (code : Nat) : List Nat := r.values.map (· + (code - r.first))

end CodeRow

/-- A table of code points. -/
structure CodeTable where
  rows : List CodeRow
  deriving DecidableEq

namespace CodeTable

/-- The table that is written in a text. -/
def read (text : String) : CodeTable := ⟨(Codes.rows text).map CodeRow.read⟩

/-- The row for a code point. -/
def row? (t : CodeTable) (code : Nat) : Option CodeRow := t.rows.find? (·.covers code)

/-- The numbers that go with a code point. -/
def values? (t : CodeTable) (code : Nat) : Option (List Nat) := (t.row? code).map (·.valuesOf code)

/-- The class of a code point. -/
def class? (t : CodeTable) (code : Nat) : Option Nat := (t.row? code).bind (·.values.head?)

end CodeTable

end WalletEvents
