/-!
# Blank characters

The characters with the Unicode property `White_Space`, and texts without the blanks at their ends.
-/

namespace WalletEvents

/-- Whether the character is white space. -/
def isBlank (c : Char) : Bool :=
  let code := c.toNat
  (9 ≤ code && code ≤ 13) || code == 0x20 || code == 0x85 || code == 0xa0 || code == 0x1680 ||
    (0x2000 ≤ code && code ≤ 0x200a) || code == 0x2028 || code == 0x2029 || code == 0x202f ||
    code == 0x205f || code == 0x3000

/-- The characters from the first that is not blank. -/
def dropBlanks (text : List Char) : List Char := text.dropWhile isBlank

/-- The characters without the blanks at both ends. -/
def trimBlanks (text : List Char) : List Char := (dropBlanks (dropBlanks text).reverse).reverse

/-- The text without the blanks at both ends. -/
def trimText (text : String) : String := String.ofList (trimBlanks text.toList)

end WalletEvents
