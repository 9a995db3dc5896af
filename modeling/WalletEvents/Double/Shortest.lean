import WalletEvents.Double.Basic

/-!
# The shortest decimal digits of a double

Every finite double stands for an interval of real numbers, the ones nearer to it than to its
neighbours; the ends belong to the interval when the significand is even. A decimal number names
the double when it lies in that interval.

**Search.** `Double.shortest` looks for the coarsest grid `10 ^ k` with a point in the interval, so
no decimal with fewer digits names the double. Of two neighbouring points it takes the nearer one,
and of two equally near ones the even one.
-/

namespace WalletEvents

/-- The number `digits * 10 ^ power`. -/
structure Decimal where
  digits : Nat
  power : Int
  deriving DecidableEq, Repr, Inhabited

namespace Decimal

/-- The decimal digits, most significant first. -/
def digitChars (d : Decimal) : List Char := Nat.toDigits 10 d.digits

/-- The exponent of the notation with one digit before the point. -/
def scientificExponent (d : Decimal) : Int := d.power + d.digitChars.length - 1

end Decimal

namespace Double

/--
The interval of a double in quarters of its last place: the lower end, the value and the upper
end. Below a full power of two the neighbour is only half as far away.
-/
def quarters (d : Double) : Nat × Nat × Nat :=
  let value := 4 * d.mantissa
  let below := if d.mantissa = 2 ^ 52 ∧ -1074 < d.exponent then 1 else 2
  (value - below, value, value + 2)

/-- The point of the grid `10 ^ k` that names the double, if there is one. -/
def gridPoint? (d : Double) (k : Int) : Option Nat :=
  let (low, value, high) := d.quarters
  let num := 2 ^ (d.exponent - 2).toNat * 10 ^ (-k).toNat
  let den := 2 ^ (2 - d.exponent).toNat * 10 ^ k.toNat
  let within (point : Nat) : Bool :=
    if d.mantissa % 2 = 0 then decide (low * num ≤ point * den ∧ point * den ≤ high * num)
    else decide (low * num < point * den ∧ point * den < high * num)
  let floor := value * num / den
  let rest := value * num % den
  match within floor, within (floor + 1) with
  | true, true =>
    if 2 * rest < den then some floor
    else if den < 2 * rest then some (floor + 1)
    else some (floor + floor % 2)
  | true, false => some floor
  | false, true => some (floor + 1)
  | false, false => none

/-- The first of the grids `10 ^ k`, `10 ^ (k - 1)`, … with a point that names the double. -/
def searchGrids (d : Double) : Nat → Int → Decimal
  | 0, k => ⟨0, k⟩
  | steps + 1, k =>
    match d.gridPoint? k with
    | some digits => ⟨digits, k⟩
    | none => searchGrids d steps (k - 1)

/-- The shortest decimal that names the magnitude of the double. -/
def shortest (d : Double) : Decimal :=
  if d.mantissa = 0 then ⟨0, 0⟩
  else d.searchGrids 24 ((d.exponent + d.mantissa.log2 + 2) * 30103 / 100000 + 1)

end Double

end WalletEvents
