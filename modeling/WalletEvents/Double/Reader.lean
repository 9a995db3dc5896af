import WalletEvents.Double.Basic

/-!
# Reading a decimal amount as a double

The written form is an optional sign, then digits with an optional point among or around them and
at least one digit, then an optional exponent; or one of the words `inf`, `infinity` and `nan` in
any case. Nothing else is read, neither spaces nor digit separators.

**Rounding.** The exact decimal goes to the nearest double, one too large becomes an infinity and
one too small a zero, each with the sign as written.
-/

namespace WalletEvents

/-- The value of a run of decimal digits. -/
def digitsValue (digits : List Char) : Nat :=
  digits.foldl (fun value c => value * 10 + (c.toNat - '0'.toNat)) 0

/-- The value of a run of decimal digits, or the given number if that is less. -/
def digitsValueUpTo (most : Nat) (digits : List Char) : Nat :=
  digits.foldl (fun value c => min most (value * 10 + (c.toNat - '0'.toNat))) 0

namespace Extended

/-- The double nearest to `± digits * 10 ^ power`, with infinities for what is out of range. -/
def ofDecimal (negative : Bool) (digits : List Char) (power : Int) : Extended :=
  let digits := digits.dropWhile (· == '0')
  let size : Int := digits.length
  if digits.isEmpty ∨ power + size < -330 then .finite { Double.zero with negative := negative }
  else if 310 < power + size then .infinite negative
  else
    match Double.nearest negative (digitsValue digits * 10 ^ power.toNat) (10 ^ (-power).toNat) with
    | some d => .finite d
    | none => .infinite negative

/-- An exponent that is greater than the length of any text; greater ones need not be told from it. -/
def greatestExponent : Nat := 10 ^ 18

/-- The exponent after its `e`: an optional sign and at least one digit up to the end. -/
def exponent? (text : List Char) : Option Int :=
  let (negative, digits) :=
    match text with
    | '-' :: rest => (true, rest)
    | '+' :: rest => (false, rest)
    | rest => (false, rest)
  if digits.isEmpty || !digits.all Char.isDigit then none
  else
    let value := digitsValueUpTo greatestExponent digits
    some (if negative then -(value : Int) else value)

/-- A number without its sign. -/
def readMagnitude (negative : Bool) (text : List Char) : Option Extended :=
  let whole := text.takeWhile Char.isDigit
  let rest := text.dropWhile Char.isDigit
  let (fraction, rest) :=
    match rest with
    | '.' :: after => (after.takeWhile Char.isDigit, after.dropWhile Char.isDigit)
    | _ => ([], rest)
  if whole.isEmpty && fraction.isEmpty then
    match text.map Char.toLower with
    | ['i', 'n', 'f'] => some (.infinite negative)
    | ['i', 'n', 'f', 'i', 'n', 'i', 't', 'y'] => some (.infinite negative)
    | ['n', 'a', 'n'] => some .notANumber
    | _ => none
  else
    let scaled (e : Int) : Extended :=
      ofDecimal negative (whole ++ fraction) (e - fraction.length)
    match rest with
    | [] => some (scaled 0)
    | 'e' :: e => (exponent? e).map scaled
    | 'E' :: e => (exponent? e).map scaled
    | _ => none

/-- The value of a written amount. -/
def read? (text : String) : Option Extended :=
  match text.toList with
  | '-' :: rest => readMagnitude true rest
  | '+' :: rest => readMagnitude false rest
  | rest => readMagnitude false rest

end Extended

end WalletEvents
