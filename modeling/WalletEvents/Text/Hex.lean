/-!
# Bytes in base 16

Every byte is written as two digits, the higher half first, with small letters. The reader takes
letters of both cases and refuses texts of odd length.
-/

namespace WalletEvents

namespace Hex

/-- The digit of a number below 16. -/
def digit (n : Nat) : Char := Nat.digitChar n

/-- The number of a digit in either case. -/
def value? (c : Char) : Option Nat :=
  if '0' ≤ c ∧ c ≤ '9' then some (c.toNat - 48)
  else if 'a' ≤ c ∧ c ≤ 'f' then some (c.toNat - 87)
  else if 'A' ≤ c ∧ c ≤ 'F' then some (c.toNat - 55)
  else none

/-- The two digits of a byte. -/
def encodeByte (b : UInt8) : List Char := [digit (b.toNat / 16), digit (b.toNat % 16)]

/-- The digits of bytes. -/
def encode (bytes : List UInt8) : String := String.ofList (bytes.flatMap encodeByte)

/-- The bytes of pairs of digits. -/
def decodeChars? : List Char → Option (List UInt8)
  | [] => some []
  | [_] => none
  | high :: low :: rest => do
    let byte := (← value? high) * 16 + (← value? low)
    some (byte.toUInt8 :: (← decodeChars? rest))

/-- The bytes that a text of digits stands for. -/
def decode? (text : String) : Option (List UInt8) := decodeChars? text.toList

end Hex

end WalletEvents
