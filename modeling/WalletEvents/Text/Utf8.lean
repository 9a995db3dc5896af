/-!
# UTF-8 with mistakes

Bytes are read as UTF-8 even if they are not: every longest piece that begins like a character and does
not end like one is replaced by the replacement character, and a byte order mark at the beginning is
dropped.
-/

namespace WalletEvents

namespace Utf8

/-- The bytes of a text. -/
def encode (text : String) : List UInt8 := text.toUTF8.toList

/-- The text of bytes that are UTF-8. -/
def decode? (bytes : List UInt8) : Option String := String.fromUTF8? ⟨bytes.toArray⟩

/-- What is known of a character when some of its bytes have come: the bytes still to come, the bounds of
the next one, and the bits so far. -/
structure Partial where
  left : Nat
  low : UInt8
  high : UInt8
  bits : Nat

/-- What the first byte of a character of several bytes tells. -/
def first? (b : UInt8) : Option Partial :=
  if 0xc2 ≤ b ∧ b ≤ 0xdf then some ⟨1, 0x80, 0xbf, b.toNat - 0xc0⟩
  else if b = 0xe0 then some ⟨2, 0xa0, 0xbf, 0⟩
  else if b = 0xed then some ⟨2, 0x80, 0x9f, 0xd⟩
  else if 0xe1 ≤ b ∧ b ≤ 0xef then some ⟨2, 0x80, 0xbf, b.toNat - 0xe0⟩
  else if b = 0xf0 then some ⟨3, 0x90, 0xbf, 0⟩
  else if b = 0xf4 then some ⟨3, 0x80, 0x8f, 4⟩
  else if 0xf1 ≤ b ∧ b ≤ 0xf3 then some ⟨3, 0x80, 0xbf, b.toNat - 0xf0⟩
  else none

/-- The characters of bytes, with replacements for the pieces that make no sense. -/
def decodeFrom (begun : Option Partial) : List UInt8 → List Char
  | [] => if begun.isSome then ['\ufffd'] else []
  | b :: rest =>
    let fresh : List Char × Option Partial :=
      if b < 0x80 then ([Char.ofNat b.toNat], none)
      else
        match first? b with
        | some p => ([], some p)
        | none => (['\ufffd'], none)
    match begun with
    | none => fresh.1 ++ decodeFrom fresh.2 rest
    | some p =>
      if p.low ≤ b ∧ b ≤ p.high then
        let bits := p.bits * 64 + (b.toNat - 0x80)
        if p.left = 1 then Char.ofNat bits :: decodeFrom none rest
        else decodeFrom (some ⟨p.left - 1, 0x80, 0xbf, bits⟩) rest
      else '\ufffd' :: (fresh.1 ++ decodeFrom fresh.2 rest)

/-- The bytes without a byte order mark at the beginning. -/
def dropMark : List UInt8 → List UInt8
  | 0xef :: 0xbb :: 0xbf :: rest => rest
  | bytes => bytes

/-- The text of any bytes. -/
def decodeLossy (bytes : List UInt8) : String := String.ofList (decodeFrom none (dropMark bytes))

end Utf8

end WalletEvents
