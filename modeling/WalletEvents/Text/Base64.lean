/-!
# Bytes in base 64

The reader takes the standard alphabet in groups of four symbols, where the last group ends with one
or two signs of padding when it stands for fewer than three bytes.

**Errors.** A reader says why it refuses a text. A last symbol that stands alone in its group and is
none of the alphabet is noticed first; then the first symbol out of place from the left; then a
group of one symbol; then missing padding; then bits of the last symbol that belong to no byte.
-/

namespace WalletEvents

/-- Why a text is not base 64. Symbols are given by their byte and their place. -/
inductive Base64Error where
  | invalidSymbol (byte : UInt8) (offset : Nat)
  | invalidLength (length : Nat)
  | invalidLastSymbol (byte : UInt8) (offset : Nat)
  | invalidPadding
  deriving DecidableEq

def Base64Error.message : Base64Error → String
  | .invalidSymbol byte offset => s!"Invalid symbol {byte.toNat}, offset {offset}."
  | .invalidLength length => s!"Invalid input length: {length}"
  | .invalidLastSymbol byte offset => s!"Invalid last symbol {byte.toNat}, offset {offset}."
  | .invalidPadding => "Invalid padding"

namespace Base64

/-- The sign of padding. -/
def pad : UInt8 := 61

/-- The six bits of a symbol. -/
def value? (b : UInt8) : Option Nat :=
  if 65 ≤ b ∧ b ≤ 90 then some (b.toNat - 65)
  else if 97 ≤ b ∧ b ≤ 122 then some (b.toNat - 71)
  else if 48 ≤ b ∧ b ≤ 57 then some (b.toNat + 4)
  else if b = 43 then some 62
  else if b = 47 then some 63
  else none

/-- The bits of a symbol at a place. -/
def symbol (offset : Nat) (b : UInt8) : Except Base64Error Nat :=
  match value? b with
  | some bits => .ok bits
  | none => .error (.invalidSymbol b offset)

/-- The three bytes of four symbols. -/
def bytesOf (a b c d : Nat) : List UInt8 :=
  [(a * 4 + b / 16).toUInt8, (b % 16 * 16 + c / 4).toUInt8, (c % 4 * 64 + d).toUInt8]

/--
The symbols of the last group and the number of signs of padding behind them. Padding may stand
behind two symbols or more and has nothing behind it.
-/
def lastSymbols (start : Nat) :
    List UInt8 → Nat → List Nat → Nat → Except Base64Error (List Nat × Nat)
  | [], _, symbols, padding => .ok (symbols.reverse, padding)
  | b :: rest, index, symbols, padding =>
    if b = pad then
      if index < 2 then .error (.invalidSymbol pad (start + index))
      else lastSymbols start rest (index + 1) symbols (padding + 1)
    else if 0 < padding then .error (.invalidSymbol pad (start + symbols.length))
    else do
      let bits ← symbol (start + index) b
      lastSymbols start rest (index + 1) (bits :: symbols) padding

/-- The bytes of the last group, which has at most four symbols. -/
def lastGroup (start : Nat) (group : List UInt8) : Except Base64Error (List UInt8) := do
  let (symbols, padding) ← lastSymbols start group 0 [] 0
  let last := group.getD (symbols.length - 1) 0
  match symbols with
  | [] => if start = 0 ∧ padding = 0 then .ok [] else .error (.invalidLength start)
  | [_] => .error (.invalidLength (start + 1))
  | [a, b] =>
    if padding ≠ 2 then .error .invalidPadding
    else if b % 16 ≠ 0 then .error (.invalidLastSymbol last (start + 1))
    else .ok ((bytesOf a b 0 0).take 1)
  | [a, b, c] =>
    if padding ≠ 1 then .error .invalidPadding
    else if c % 4 ≠ 0 then .error (.invalidLastSymbol last (start + 2))
    else .ok ((bytesOf a b c 0).take 2)
  | a :: b :: c :: d :: _ => .ok (bytesOf a b c d)

/-- The bytes of all groups. -/
def groups (start : Nat) : List UInt8 → Except Base64Error (List UInt8)
  | a :: b :: c :: d :: e :: rest => do
    let a ← symbol start a
    let b ← symbol (start + 1) b
    let c ← symbol (start + 2) c
    let d ← symbol (start + 3) d
    .ok (bytesOf a b c d ++ (← groups (start + 4) (e :: rest)))
  | last => lastGroup start last

/-- The bytes that a text stands for. -/
def decode (text : List UInt8) : Except Base64Error (List UInt8) :=
  match text.getLast? with
  | some last =>
    if text.length % 4 = 1 ∧ last ≠ pad ∧ (value? last).isNone then
      .error (.invalidSymbol last (text.length - 1))
    else groups 0 text
  | none => .ok []

end Base64

end WalletEvents
