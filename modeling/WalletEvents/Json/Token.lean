import WalletEvents.Json.Number

/-!
# Tokens of a JSON text

The tokens are found by a machine that takes one byte at a time. It refuses what can be no part of
any JSON text: an unknown word or escape, a number with a superfluous zero, a bare control character
in a string, a text that ends inside a token.

The machine does not look at what a string or a number means. A string is kept as the bytes and
UTF-16 units it is spelled with, so its text may still turn out not to be Unicode, and a number may
still turn out to be out of range.
-/

namespace WalletEvents

namespace Json

/-- A piece of a string: a byte as it stands or a UTF-16 unit given by an escape. -/
inductive Piece where
  | byte (value : UInt8)
  | unit (value : UInt16)
  deriving DecidableEq

/-- A token of a JSON text. -/
inductive Token where
  | openArray
  | closeArray
  | openObject
  | closeObject
  | comma
  | colon
  | null
  | boolean (value : Bool)
  | number (numeral : Numeral)
  | string (pieces : List Piece)
  deriving DecidableEq

namespace Token

/-- Where the machine stands between two bytes; what it has read of a token has its end in front. -/
inductive State where
  | between
  | word (letters : List Char)
  | numeral (text : List Char)
  | string (pieces : List Piece)
  | escape (pieces : List Piece)
  | unit (pieces : List Piece) (due : Nat) (value : UInt16)

/-- The characters that may stand in a number. -/
def isNumeralChar (c : Char) : Bool :=
  c.isDigit || c = '-' || c = '+' || c = '.' || c = 'e' || c = 'E'

def ofWord? : List Char → Option Token
  | ['n', 'u', 'l', 'l'] => some .null
  | ['t', 'r', 'u', 'e'] => some (.boolean true)
  | ['f', 'a', 'l', 's', 'e'] => some (.boolean false)
  | _ => none

/-- The value of a hexadecimal digit in either case. -/
def hexDigit? (b : UInt8) : Option Nat :=
  if 48 ≤ b ∧ b ≤ 57 then some (b.toNat - 48)
  else if 97 ≤ b ∧ b ≤ 102 then some (b.toNat - 87)
  else if 65 ≤ b ∧ b ≤ 70 then some (b.toNat - 55)
  else none

/-- The first byte of a token, or a blank. -/
def start? (b : UInt8) : Option (List Token × State) :=
  match Char.ofNat b.toNat with
  | ' ' | '\n' | '\t' | '\r' => some ([], .between)
  | '[' => some ([.openArray], .between)
  | ']' => some ([.closeArray], .between)
  | '\x7b' => some ([.openObject], .between)
  | '\x7d' => some ([.closeObject], .between)
  | ',' => some ([.comma], .between)
  | ':' => some ([.colon], .between)
  | '"' => some ([], .string [])
  | c =>
    if c.isLower then some ([], .word [c])
    else if c.isDigit || c = '-' then some ([], .numeral [c])
    else none

/-- The token that ends before the next byte, if the state allows one to end here. -/
def ended? : State → Option (List Token)
  | .between => some []
  | .word letters => (ofWord? letters.reverse).map ([·])
  | .numeral text => (Numeral.ofChars? text.reverse).map ([.number ·])
  | _ => none

/-- The piece that an escape with one letter stands for. -/
def shortEscape? (b : UInt8) : Option Piece :=
  match Char.ofNat b.toNat with
  | '"' => some (.byte 34)
  | '\\' => some (.byte 92)
  | '/' => some (.byte 47)
  | 'b' => some (.byte 8)
  | 'f' => some (.byte 12)
  | 'n' => some (.byte 10)
  | 'r' => some (.byte 13)
  | 't' => some (.byte 9)
  | _ => none

/-- A byte that ends the token before it. -/
def restart? (state : State) (b : UInt8) : Option (List Token × State) := do
  let before ← ended? state
  let (tokens, next) ← start? b
  some (before ++ tokens, next)

/-- One byte: the tokens that end with it and the state behind it, or nothing. -/
def step? (state : State) (b : UInt8) : Option (List Token × State) :=
  match state with
  | .between => start? b
  | .word letters =>
    if (Char.ofNat b.toNat).isLower then some ([], .word (Char.ofNat b.toNat :: letters))
    else restart? state b
  | .numeral text =>
    if isNumeralChar (Char.ofNat b.toNat) then some ([], .numeral (Char.ofNat b.toNat :: text))
    else restart? state b
  | .string pieces =>
    if b = 34 then some ([.string pieces.reverse], .between)
    else if b = 92 then some ([], .escape pieces)
    else if b < 32 then none
    else some ([], .string (.byte b :: pieces))
  | .escape pieces =>
    if b = 117 then some ([], .unit pieces 3 0)
    else (shortEscape? b).map fun piece => ([], .string (piece :: pieces))
  | .unit pieces due value =>
    (hexDigit? b).map fun digit =>
      let value := value * 16 + digit.toUInt16
      match due with
      | 0 => ([], .string (.unit value :: pieces))
      | due + 1 => ([], .unit pieces due value)

/-- Reads the bytes from a state on, in front of the tokens found so far, the last one first. -/
def scan? (state : State) (found : List Token) : List UInt8 → Option (List Token)
  | [] => (ended? state).map fun last => (last ++ found).reverse
  | b :: rest =>
    match step? state b with
    | some (tokens, next) => scan? next (tokens.reverseAux found) rest
    | none => none

end Token

/-- The tokens of a whole text. -/
def tokens? (text : List UInt8) : Option (List Token) := Token.scan? .between [] text

end Json

end WalletEvents
