import WalletEvents.Double.Reader
import WalletEvents.Text.Hex
import WalletEvents.Text.Split

/-!
# Network addresses

An address of the fourth version of the Internet protocol has four octets, one of the sixth version
has eight groups of sixteen bits.

**Reading.** Octets are written in base 10 without leading zeros, groups in base 16 with up to four
digits. Once in an address two colons may stand for one or more groups of zeros, and the last two
groups may be written as four octets.

**Writing.** The longest run of at least two zero groups is shortened, the first one of several; an
address that carries one of the fourth version shows it in its last two groups.
-/

namespace WalletEvents

/-- An address of either version of the Internet protocol. -/
inductive Address where
  | v4 (octets : Vector UInt8 4)
  | v6 (groups : Vector UInt16 8)
  deriving DecidableEq

namespace Address

/-- The number of bits of an address of this version. -/
def width : Address → Nat
  | .v4 _ => 32
  | .v6 _ => 128

/-- The bits of an address as a number, the first bit being the highest. -/
def number : Address → Nat
  | .v4 octets => octets.toList.foldl (fun n octet => n * 256 + octet.toNat) 0
  | .v6 groups => groups.toList.foldl (fun n group => n * 65536 + group.toNat) 0

/-- Whether two addresses are of the same version. -/
def sameVersion : Address → Address → Bool
  | .v4 _, .v4 _ => true
  | .v6 _, .v6 _ => true
  | _, _ => false

/-- An octet of one to three digits without leading zeros. -/
def octet? (text : List Char) : Option UInt8 :=
  if text.isEmpty || 3 < text.length || !text.all Char.isDigit then none
  else if text.head? = some '0' ∧ text ≠ ['0'] then none
  else
    let n := digitsValue text
    if n < 256 then some n.toUInt8 else none

/-- Four octets with dots between them. -/
def octets? (text : List Char) : Option (List UInt8) := do
  let octets ← (splitAll '.' text).mapM octet?
  if octets.length = 4 then some octets else none

/-- The number of digits of base 16. -/
def hexValue? (text : List Char) : Option Nat :=
  text.foldlM (fun n c => (Hex.value? c).map (n * 16 + ·)) 0

/-- A group of one to four digits. -/
def group? (text : List Char) : Option UInt16 :=
  if text.isEmpty || 4 < text.length then none else (hexValue? text).map Nat.toUInt16

/-- The last part of an address: one group, or four octets for two groups. -/
def lastGroups? (text : List Char) : Option (List UInt16) :=
  match octets? text with
  | some [a, b, c, d] => some [a.toUInt16 <<< 8 ||| b.toUInt16, c.toUInt16 <<< 8 ||| d.toUInt16]
  | _ => (group? text).map ([·])

/-- Groups of which the last two may be written as octets. -/
def groupsOfParts? : List (List Char) → Option (List UInt16)
  | [] => some []
  | [last] => lastGroups? last
  | part :: rest => do
    let group ← group? part
    some (group :: (← groupsOfParts? rest))

/-- Groups with colons between them; an empty text has none. -/
def groups? (text : List Char) : Option (List UInt16) :=
  if text.isEmpty then some [] else groupsOfParts? (splitAll ':' text)

/-- Groups with colons between them, all of them in base 16. -/
def plainGroups? (text : List Char) : Option (List UInt16) :=
  if text.isEmpty then some [] else (splitAll ':' text).mapM group?

/-- What stands before the first two colons in a row and what stands after them. -/
def cutAtGap? : List Char → Option (List Char × List Char)
  | ':' :: ':' :: rest => some ([], rest)
  | c :: rest => (cutAtGap? rest).map fun (before, after) => (c :: before, after)
  | [] => none

/-- The eight groups of an address; a gap stands for at least one group. -/
def allGroups? (text : List Char) : Option (List UInt16) :=
  match cutAtGap? text with
  | some (before, after) => do
    let left ← plainGroups? before
    let right ← groups? after
    if left.length + right.length ≤ 7 then
      some (left ++ List.replicate (8 - left.length - right.length) 0 ++ right)
    else none
  | none => groups? text

/-- The address that a whole text names. -/
def ofChars? (text : List Char) : Option Address :=
  match octets? text with
  | some octets => if h : octets.toArray.size = 4 then some (.v4 ⟨octets.toArray, h⟩) else none
  | none =>
    match allGroups? text with
    | some groups => if h : groups.toArray.size = 8 then some (.v6 ⟨groups.toArray, h⟩) else none
    | none => none

def read? (text : String) : Option Address := ofChars? text.toList

/-- Four octets with dots between them. -/
def octetsText (octets : List UInt8) : String :=
  ".".intercalate (octets.map fun octet => Nat.repr octet.toNat)

/-- Groups with colons between them. -/
def groupsText (groups : List UInt16) : String :=
  ":".intercalate (groups.map fun group => String.ofList (Nat.toDigits 16 group.toNat))

/-- The length of the run of zero groups at the beginning. -/
def zeroRun (groups : List UInt16) : Nat := (groups.takeWhile (· == 0)).length

/-- The place and the length of the first longest run of zero groups. -/
def longestZeroRun : List UInt16 → Nat × Nat
  | [] => (0, 0)
  | group :: rest =>
    let here := zeroRun (group :: rest)
    let (place, length) := longestZeroRun rest
    if length ≤ here then (0, here) else (place + 1, length)

/-- Eight groups with the longest run of zeros shortened. -/
def shortenedText (groups : List UInt16) : String :=
  let (place, length) := longestZeroRun groups
  if 1 < length then
    groupsText (groups.take place) ++ "::" ++ groupsText (groups.drop (place + length))
  else groupsText groups

def text : Address → String
  | .v4 octets => octetsText octets.toList
  | .v6 groups =>
    match groups.toList with
    | [0, 0, 0, 0, 0, 0xffff, high, low] =>
      "::ffff:" ++ octetsText [(high >>> 8).toUInt8, high.toUInt8, (low >>> 8).toUInt8, low.toUInt8]
    | groups => shortenedText groups

/-- The address of an end point: a port follows it, and colons inside it stand in brackets. The zone in which
an address is valid may stand behind a percent sign and is left out. -/
def ofEndpoint? (text : String) : Option Address :=
  match text.toList with
  | '[' :: rest => ofChars? (upTo '%' (upTo ']' rest))
  | all => ofChars? (upTo ':' all)

end Address

end WalletEvents
