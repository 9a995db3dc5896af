import WalletEvents.Network.Address
import WalletEvents.Power
import WalletEvents.Url.Domain
import WalletEvents.Url.Fault
import WalletEvents.Url.Percent

/-!
# Hosts

The host of a URL is a domain name or a network address. The host of a URL whose scheme is not a special
one is any text.

**Addresses of the fourth version** are recognised by their last part, which is a number. They have up to
four parts, in base 8 after a zero and in base 16 after `0x`, and the last part fills the rest of the
address.
-/

namespace WalletEvents

/-- The host of a URL; an empty name stands for none. -/
inductive Host where
  | name (text : String)
  | v4 (number : Nat)
  | v6 (groups : List UInt16)
  deriving DecidableEq

namespace Host

def text : Host → String
  | .name text => text
  | .v4 number => Address.octetsText
      [(number / 2 ^ 24).toUInt8, (number / 2 ^ 16).toUInt8, (number / 2 ^ 8).toUInt8, number.toUInt8]
  | .v6 groups => "[" ++ Address.shortenedText groups ++ "]"

def isEmpty : Host → Bool
  | .name text => text.isEmpty
  | _ => false

/-- The base in which a part is written, and its digits. -/
def baseOf : List Char → Nat × List Char
  | '0' :: x :: rest =>
    if x = 'x' ∨ x = 'X' then (16, rest) else (8, x :: rest)
  | digits => (10, digits)

/-- A part of an address; no digits after a base are zero. -/
def number? (part : List Char) : Option Nat :=
  let (base, digits) := baseOf part
  if part.isEmpty then none
  else
    digits.foldlM (fun n c => do
      let d ← Hex.value? c
      if d < base then some (n * base + d) else none) 0

/-- The parts of a domain without an empty one at the end. -/
def parts (domain : List Char) : List (List Char) :=
  let parts := splitAll '.' domain
  if parts.getLast? = some [] then parts.dropLast else parts

/-- Whether a domain is taken for an address. -/
def endsInNumber (domain : List Char) : Bool :=
  match (parts domain).getLast? with
  | some last => (!last.isEmpty && last.all Char.isDigit) || (number? last).isSome
  | none => false

/-- The number of an address whose last part fills the rest. -/
def v4Number? (domain : List Char) : Option Nat := do
  let numbers ← (parts domain).mapM number?
  let last ← numbers.getLast?
  let leading := numbers.dropLast
  if 4 < numbers.length ∨ leading.any (255 < ·) ∨ 256 ^ (4 - leading.length) ≤ last then none
  else some (leading.foldl (fun n part => n * 256 + part) 0 * 256 ^ (4 - leading.length) + last)

/-- An address of the sixth version between brackets. -/
def bracketed (text : List Char) : Except UrlFault Host :=
  match text.reverse with
  | ']' :: rest =>
    match Address.allGroups? rest.reverse with
    | some groups => if groups.length = 8 then .ok (.v6 groups) else .error .ipv6
    | none => .error .ipv6
  | _ => .error .ipv6

/-- The host of a URL whose scheme is special. -/
def domain (text : List Char) : Except UrlFault Host :=
  match text with
  | '[' :: rest => bracketed rest
  | _ =>
    match (Utf8.decode? (Percent.decode text)).bind fun text => Domain.ofChars? text.toList with
    | none => .error .internationalName
    | some ascii =>
      if ascii.isEmpty then .error .emptyHost
      else if endsInNumber ascii.toList then
        match v4Number? ascii.toList with
        | some number => .ok (.v4 number)
        | none => .error .ipv4
      else .ok (.name ascii)

/-- Whether the character may not stand in the host of a URL whose scheme is not special. -/
def isForbidden (c : Char) : Bool := "\x00\t\n\r #/:<>?@[\\]^|".contains c

/-- The host of a URL whose scheme is not special. -/
def ofAny (text : List Char) : Except UrlFault Host :=
  match text with
  | '[' :: rest => bracketed rest
  | _ =>
    if text.any isForbidden then .error .domainCharacter
    else .ok (.name (String.ofList (Percent.encode Percent.isPlain text)))

end Host

end WalletEvents
