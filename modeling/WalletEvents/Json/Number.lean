import WalletEvents.Double.Shortest
import WalletEvents.Double.Reader

/-!
# JSON numbers

A number without a point and without an exponent that fits 64 bits, signed or not, is an integer;
every other number is a double, the negative zero included.

**Reading.** The leading digits that fit 64 bits are the significand, as a double; a power of ten
then multiplies or divides it, with one rounding for each step. A number too large for a double
has no value, and one too small is a zero.

**Writing.** Integers are written in full. A double is written with its shortest digits, in plain
notation with at least one decimal while the exponent of its first digit is between -5 and 15, and
with a signed exponent otherwise.
-/

namespace WalletEvents

namespace Json

/-- A number of a JSON text: an integer of 64 bits, signed or not, or a finite double. -/
inductive Number where
  | integer (value : Int) (fits : -2 ^ 63 ≤ value ∧ value < 2 ^ 64)
  | double (value : Double)
  deriving DecidableEq

/-- A number as it is spelled, without its value. -/
structure Numeral where
  negative : Bool
  whole : List Char
  fraction : Option (List Char)
  exponent : Option (Bool × List Char)
  deriving DecidableEq

namespace Numeral

/-- Whether the digits may stand before the point: at least one, with no superfluous zero. -/
def wholeAllowed : List Char → Bool
  | [] => false
  | ['0'] => true
  | '0' :: _ => false
  | _ => true

/-- The exponent part: an `e`, an optional sign and at least one digit, up to the end. -/
def exponentPart? : List Char → Option (Option (Bool × List Char))
  | [] => some none
  | c :: rest =>
    if c = 'e' ∨ c = 'E' then
      let (negative, digits) :=
        match rest with
        | '-' :: digits => (true, digits)
        | '+' :: digits => (false, digits)
        | digits => (false, digits)
      if digits.isEmpty || !digits.all Char.isDigit then none else some (some (negative, digits))
    else none

/-- The part from the point on, if there is a point, and the exponent part. -/
def fractionPart? (text : List Char) : Option (Option (List Char) × Option (Bool × List Char)) :=
  match text with
  | '.' :: rest =>
    let digits := rest.takeWhile Char.isDigit
    if digits.isEmpty then none
    else (exponentPart? (rest.dropWhile Char.isDigit)).map (some digits, ·)
  | _ => (exponentPart? text).map (none, ·)

/-- Reads a whole text as one numeral. -/
def ofChars? (text : List Char) : Option Numeral :=
  let (negative, magnitude) :=
    match text with
    | '-' :: rest => (true, rest)
    | rest => (false, rest)
  let whole := magnitude.takeWhile Char.isDigit
  if wholeAllowed whole then
    (fractionPart? (magnitude.dropWhile Char.isDigit)).map fun (fraction, exponent) =>
      ⟨negative, whole, fraction, exponent⟩
  else
    none

/--
Appends digits to a significand as long as it fits 64 bits, and tells how many were taken; the
first digit that does not fit ends the significand.
-/
def appendDigits (significand : Nat) : List Char → Nat × Nat
  | [] => (significand, 0)
  | c :: rest =>
    let longer := significand * 10 + (c.toNat - '0'.toNat)
    if longer < 2 ^ 64 then
      let (result, taken) := appendDigits longer rest
      (result, taken + 1)
    else (significand, 0)

/-- The double nearest to a power of ten, for exponents up to 308. -/
def tenPower (exponent : Nat) : Double := (Double.ofInt? (10 ^ exponent : Nat)).getD .zero

/--
The significand times a power of ten. A power below `10 ^ (-308)` is divided off in two steps, and
below `10 ^ (-616)` nothing is left of any significand.
-/
def scale? (significand : Nat) (exponent : Int) : Option Double := do
  let value ← Double.ofInt? significand
  if value.isZero then some value
  else if 308 < exponent then none
  else if 0 ≤ exponent then value.mul? (tenPower exponent.toNat)
  else if -308 ≤ exponent then value.div? (tenPower (-exponent).toNat)
  else if -616 ≤ exponent then
    (← value.div? (tenPower 308)).div? (tenPower (-exponent - 308).toNat)
  else some .zero

/-- The power of ten that an exponent part asks for. -/
def exponentValue : Option (Bool × List Char) → Int
  | none => 0
  | some (negative, digits) =>
    let value := digitsValueUpTo Extended.greatestExponent digits
    if negative then -(value : Int) else value

/-- The numeral as a double, or nothing when it is too large for one. -/
def toDouble? (n : Numeral) : Option Double :=
  let (leading, taken) := appendDigits 0 n.whole
  let (significand, decimals) := appendDigits leading (n.fraction.getD [])
  let exponent : Int := ((n.whole.length - taken : Nat) : Int) - decimals + exponentValue n.exponent
  (scale? significand exponent).map fun d => { d with negative := n.negative }

/-- The integer of a numeral without point and exponent, when 64 bits hold it. -/
def toInteger? (n : Numeral) : Option Number :=
  if n.fraction.isSome || n.exponent.isSome then none
  else
    let magnitude := digitsValueUpTo (2 ^ 64) n.whole
    if n.negative then
      if h : magnitude ≠ 0 ∧ magnitude ≤ 2 ^ 63 then
        some (.integer (-(magnitude : Int)) (by omega))
      else none
    else if h : magnitude < 2 ^ 64 then some (.integer magnitude (by omega))
    else none

/-- The value of a numeral, or nothing when it is too large for a double. -/
def value? (n : Numeral) : Option Number :=
  match n.toInteger? with
  | some number => some number
  | none => n.toDouble?.map .double

end Numeral

namespace Number

def toDouble : Number → Double
  | .integer i _ => (Double.ofInt? i).getD .zero
  | .double d => d

/-- The digits of a decimal in plain notation, with at least one digit after the point. -/
def plainNotation (d : Decimal) : String :=
  let digits := d.digitChars
  if 0 ≤ d.power then String.ofList (digits ++ List.replicate d.power.toNat '0') ++ ".0"
  else
    let decimals := (-d.power).toNat
    if decimals < digits.length then
      String.ofList (digits.take (digits.length - decimals)) ++ "." ++
        String.ofList (digits.drop (digits.length - decimals))
    else
      "0." ++ String.ofList (List.replicate (decimals - digits.length) '0' ++ digits)

/-- The digits of a decimal with one digit before the point and a signed exponent. -/
def scientificNotation (d : Decimal) : String :=
  let exponent := d.scientificExponent
  let mantissa :=
    match d.digitChars with
    | [] => "0"
    | [digit] => digit.toString
    | digit :: rest => digit.toString ++ "." ++ String.ofList rest
  mantissa ++ (if exponent < 0 then "e-" else "e+") ++ toString exponent.natAbs

/-- The text of a double: plain for moderate exponents, scientific for the others. -/
def doubleText (d : Double) : String :=
  let decimal := d.shortest
  let magnitude :=
    if -5 ≤ decimal.scientificExponent ∧ decimal.scientificExponent ≤ 15 then plainNotation decimal
    else scientificNotation decimal
  if d.negative then "-" ++ magnitude else magnitude

def text : Number → String
  | .integer i _ => toString i
  | .double d => doubleText d

end Number

end Json

end WalletEvents
