import WalletEvents.Text.Decomposition
import WalletEvents.Text.Split
import WalletEvents.Url.Domain.Direction
import WalletEvents.Url.Domain.Joiner
import WalletEvents.Url.Domain.Mapping
import WalletEvents.Url.Punycode

/-!
# Domain names

The domain of a URL is written in ASCII: small letters take the place of large ones, and a label with
other characters is written in Punycode behind the mark `xn--`.

**Normal form.** What may be written in several ways has one form: each character is replaced by what stands
for it, and the text is composed. A label that is in Punycode already has to stand for a text in this form.
-/

namespace WalletEvents

namespace Domain

/-- Whether the character may not stand in the domain of a URL. -/
def isForbidden (c : Char) : Bool :=
  c.toNat ≤ 32 || c.toNat == 127 || "%#/:<>?@[\\]^|".contains c

def isAscii (label : List Char) : Bool := label.all fun c => c.toNat < 128

/-- The normal form of a text. -/
def normal? (text : List Char) : Option (List Char) := do
  let codes ← text.mapM fun c => mapped? c.toNat
  some (Decomposition.compose (codes.flatten.map Char.ofNat))

/-- The mark before a label in Punycode. -/
def mark : List Char := ['x', 'n', '-', '-']

/-- The greatest number of characters of a label that are read as Punycode. -/
def longestCode : Nat := 2000

/-- The greatest number of characters of a label that are written in Punycode. -/
def longestLabel : Nat := 1000

/-- The text that a code behind the mark stands for. -/
def decoded? (code : List Char) : Option (List Char) := do
  if code = [] ∨ code.getLast? = some '-' ∨ longestCode < code.length ∨ !isAscii code then none
  let text ← Punycode.decode? code
  if isAscii text ∨ mark.isPrefixOf text then none
  let normal ← normal? text
  if normal = text then some text else none

/-- The text that a label in its normal form stands for. -/
def meaning? (label : List Char) : Option (List Char) :=
  if mark.isPrefixOf label then decoded? (label.drop mark.length) else some label

/-- Whether a text may be a label: it begins with no mark, and its joiners are in place. -/
def isLabel (text : List Char) : Bool :=
  isAscii text || (!text.head?.any Combining.isMark && Joiner.inPlace [] text)

/-- Whether the characters of all labels are in order, if some are written from right to left. -/
def inOrder (labels : List (List Char)) : Bool :=
  labels.all isAscii ||
    let directions := labels.map fun label => label.map Direction.ofChar
    !(directions.any fun label => label.any Direction.asksForOrder) || directions.all Direction.inOrder

/-- The label in ASCII, if it is not too long. -/
def encoded? (text : List Char) : Option (List Char) :=
  if isAscii text then some text
  else if longestLabel < text.length then none
  else some (mark ++ Punycode.encode text)

/-- The domain in ASCII. -/
def ofChars? (text : List Char) : Option String := do
  let normal ← normal? text
  if normal.any isForbidden then none
  let labels ← (splitAll '.' normal).mapM meaning?
  if labels.all isLabel ∧ inOrder labels then
    let encoded ← labels.mapM encoded?
    some (".".intercalate (encoded.map String.ofList))
  else none

end Domain

end WalletEvents
