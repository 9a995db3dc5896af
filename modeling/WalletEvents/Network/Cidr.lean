import WalletEvents.Failure
import WalletEvents.Network.Address
import WalletEvents.Text.Blank

/-!
# Networks

A network is an address and the number of its leading bits that count. An address lies in the network
if it is of the same version and has the same leading bits; the other bits of the network's address
do not matter.

**Written form.** The address, a slash and the number of bits. Blanks around it are dropped, and
without a number all bits count.
-/

namespace WalletEvents

/-- An address of which the leading bits count. -/
structure Cidr where
  address : Address
  length : Nat
  length_le : length ≤ address.width
  deriving DecidableEq

namespace Cidr

/-- The network of the leading bits of an address. -/
def new (address : Address) (length : Nat) : Except Failure Cidr :=
  if h : length ≤ address.width then .ok ⟨address, length, h⟩
  else .error (.configuration (.lengthTooGreat length address))

/-- Whether an address lies in the network. -/
def contains (c : Cidr) (ip : Address) : Bool :=
  c.address.sameVersion ip &&
    c.address.number >>> (c.address.width - c.length) == ip.number >>> (ip.width - c.length)

/-- A number below 256 with an optional plus sign and any number of leading zeros. -/
def length? (text : List Char) : Option Nat :=
  let digits := match text with
    | '+' :: rest => rest
    | rest => rest
  if digits.isEmpty || !digits.all Char.isDigit then none
  else
    let n := digitsValueUpTo 256 digits
    if n < 256 then some n else none

/-- The address and the number of bits that a text gives. -/
def parts? (text : List Char) : Option (Address × Nat) :=
  match cutFirst? '/' text with
  | some (address, length) => do
    let address ← Address.ofChars? address
    some (address, ← length? length)
  | none => (Address.ofChars? text).map fun address => (address, address.width)

/-- The network that a text names. -/
def read (text : String) : Except Failure Cidr :=
  match parts? (trimBlanks text.toList) with
  | some (address, length) => new address length
  | none => .error (.configuration (.invalidNetwork text))

/-- The written form of a network. -/
def text (c : Cidr) : String := c.address.text ++ "/" ++ Nat.repr c.length

end Cidr

end WalletEvents
