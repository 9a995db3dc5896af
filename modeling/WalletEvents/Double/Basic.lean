import WalletEvents.Power

/-!
# Finite doubles as exact numbers

A finite double of the IEEE 754 binary64 format is kept as its sign, its significand and its power
of two, in the one form the format stores: a full significand of 53 bits, or the least exponent.
No operation here rounds behind the reader's back, since every result is first an exact quotient
of natural numbers.

**Rounding.** `Double.nearest` takes a quotient to the nearest double, a half going to the even
significand, and answers nothing when the quotient is too large for the format.

**Order.** `Double.le` compares the exact values, so the two zeros are equal, and
`Extended.atLeast` adds the infinities and the value that is no number, which is never at least
anything.
-/

namespace WalletEvents

/-- A finite double `± mantissa * 2 ^ exponent` in the form in which the format stores it. -/
structure Double where
  negative : Bool
  mantissa : Nat
  exponent : Int
  stored :
    (mantissa < 2 ^ 52 ∧ exponent = -1074) ∨
      (2 ^ 52 ≤ mantissa ∧ mantissa < 2 ^ 53 ∧ -1074 ≤ exponent ∧ exponent ≤ 971)
  deriving DecidableEq

/-- The quotient rounded to the nearest natural number, a half going to the even one. -/
def divNearest (num den : Nat) : Nat :=
  let quotient := num / den
  let rest := num % den
  if 2 * rest < den then quotient
  else if den < 2 * rest then quotient + 1
  else quotient + quotient % 2

/-- Whether `2 ^ e ≤ num / den`. -/
def powLeRatio (e : Int) (num den : Nat) : Bool :=
  if 0 ≤ e then decide (den * 2 ^ e.toNat ≤ num) else decide (den ≤ num * 2 ^ (-e).toNat)

/-- The exponent `e` with `2 ^ e ≤ num / den < 2 ^ (e + 1)`, both being positive. -/
def ratioLog2 (num den : Nat) : Int :=
  let e : Int := (num.log2 : Int) - den.log2
  if powLeRatio e num den then e else e - 1

namespace Double

/-- The positive zero. -/
def zero : Double := ⟨false, 0, -1074, Or.inl ⟨by decide, rfl⟩⟩

instance : Inhabited Double := ⟨zero⟩

/-- The double with these parts, if the format stores them in this form. -/
def ofParts? (negative : Bool) (mantissa : Nat) (exponent : Int) : Option Double :=
  if h : (mantissa < 2 ^ 52 ∧ exponent = -1074) ∨
      (2 ^ 52 ≤ mantissa ∧ mantissa < 2 ^ 53 ∧ -1074 ≤ exponent ∧ exponent ≤ 971) then
    some ⟨negative, mantissa, exponent, h⟩
  else
    none

/-- The double nearest to `num / den`, or nothing when the quotient is out of range. -/
def nearest (negative : Bool) (num den : Nat) : Option Double :=
  if num = 0 then
    some { zero with negative := negative }
  else
    let exponent := max (ratioLog2 num den - 52) (-1074)
    let mantissa :=
      if 0 ≤ exponent then divNearest num (den * 2 ^ exponent.toNat)
      else divNearest (num * 2 ^ (-exponent).toNat) den
    if mantissa = 2 ^ 53 then ofParts? negative (2 ^ 52) (exponent + 1)
    else ofParts? negative mantissa exponent

/-- The numerator of the magnitude. -/
def numerator (d : Double) : Nat := d.mantissa * 2 ^ d.exponent.toNat

/-- The denominator of the magnitude, a power of two. -/
def denominator (d : Double) : Nat := 2 ^ (-d.exponent).toNat

/-- The product rounded to a double. -/
def mul? (a b : Double) : Option Double :=
  nearest (a.negative != b.negative) (a.numerator * b.numerator) (a.denominator * b.denominator)

/-- The quotient by a double other than zero, rounded to a double. -/
def div? (a b : Double) : Option Double :=
  nearest (a.negative != b.negative) (a.numerator * b.denominator) (a.denominator * b.numerator)

/-- The double nearest to an integer, or nothing when it is out of range. -/
def ofInt? (i : Int) : Option Double := nearest (decide (i < 0)) i.natAbs 1

/-- Whether the magnitude is zero. -/
def isZero (d : Double) : Bool := d.mantissa == 0

def signedMantissa (d : Double) : Int := if d.negative then -d.mantissa else d.mantissa

/-- Whether the exact value of the one is at most that of the other. -/
def le (a b : Double) : Bool :=
  let least := min a.exponent b.exponent
  decide (a.signedMantissa * 2 ^ (a.exponent - least).toNat
    ≤ b.signedMantissa * 2 ^ (b.exponent - least).toNat)

/-- The 64 bits in which the format stores the double. -/
def bits (d : Double) : Nat :=
  (if d.negative then 2 ^ 63 else 0) +
    (if d.mantissa < 2 ^ 52 then d.mantissa
     else (d.exponent + 1075).toNat * 2 ^ 52 + (d.mantissa - 2 ^ 52))

end Double

/-- A double that may also be an infinity or no number at all. -/
inductive Extended where
  | finite (value : Double)
  | infinite (negative : Bool)
  | notANumber
  deriving DecidableEq

namespace Extended

/-- Whether the first value is known to be at least the second. -/
def atLeast : Extended → Extended → Bool
  | .notANumber, _ => false
  | _, .notANumber => false
  | .infinite false, _ => true
  | _, .infinite true => true
  | .infinite true, _ => false
  | _, .infinite false => false
  | .finite a, .finite b => b.le a

end Extended

end WalletEvents
