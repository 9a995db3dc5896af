import WalletEvents.Text.Hex
import WalletEvents.Text.Utf8

/-!
# Percent encoding

In a URL a byte may be written as a percent sign and two digits of base 16. Which characters have to be
written that way depends on the part of the URL; characters outside ASCII always have to.

**Forms.** A query that carries the fields of a form writes a space as a plus sign and keeps only
letters, digits and four marks.
-/

namespace WalletEvents

namespace Percent

/-- A byte as a percent sign and two large digits. -/
def encodeByte (b : UInt8) : List Char :=
  ['%', (Hex.digit (b.toNat / 16)).toUpper, (Hex.digit (b.toNat % 16)).toUpper]

/-- Writes the characters that are not to be kept in bytes. -/
def encode (keep : Char → Bool) (text : List Char) : List Char :=
  text.flatMap fun c =>
    if keep c then [c] else (Utf8.encode (String.singleton c)).flatMap encodeByte

/-- Whether the character is in ASCII and no control character. -/
def isPlain (c : Char) : Bool := 32 ≤ c.toNat && c.toNat < 127

/-- What is kept in a fragment. -/
def inFragment (c : Char) : Bool := isPlain c && !" \"<>`".contains c

/-- What is kept in a path. -/
def inPath (c : Char) : Bool := inFragment c && !"#?\x7b\x7d".contains c

/-- What is kept in a user name or a password. -/
def inUserInfo (c : Char) : Bool := inPath c && !"/:;=@[\\]^|".contains c

/-- What is kept in a query. -/
def inQuery (special : Bool) (c : Char) : Bool :=
  isPlain c && !" \"#<>".contains c && !(special && c == '\'')

/-- The bytes of a text in which percent signs may stand for bytes. -/
def decode : List Char → List UInt8
  | [] => []
  | '%' :: a :: b :: rest =>
    match Hex.value? a, Hex.value? b with
    | some high, some low => (high * 16 + low).toUInt8 :: decode rest
    | _, _ => 0x25 :: decode (a :: b :: rest)
  | c :: rest => Utf8.encode (String.singleton c) ++ decode rest

end Percent

namespace Form

/-- What is kept in a form. -/
def keeps (c : Char) : Bool := c.isAlphanum || "*-._".contains c

/-- A name or a value of a form. -/
def encode (text : String) : List Char :=
  text.toList.flatMap fun c =>
    if c = ' ' then ['+']
    else if keeps c then [c]
    else (Utf8.encode (String.singleton c)).flatMap Percent.encodeByte

def encodeField (field : String × String) : List Char := encode field.1 ++ '=' :: encode field.2

/-- The fields of a form behind a query that may be there already. -/
def append (query : List Char) (fields : List (String × String)) : List Char :=
  fields.foldl (fun query field =>
    (if query.isEmpty then query else query ++ ['&']) ++ encodeField field) query

end Form

end WalletEvents
