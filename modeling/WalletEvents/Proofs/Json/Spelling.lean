import WalletEvents.Json.Text
import WalletEvents.Proofs.Text.Utf8

/-!
# The characters and the pieces of a JSON text

This module describes what `Json.compress` writes, character by character, and
the tree that a reader should find in it:

* `Json.chars` are the characters of a value, where the parts of an array or of
  an object are joined by commas;
* `Json.pieces` are the pieces that a string is spelled with;
* `Json.tree` is the tree of the text.

The pieces of a string give the string back.
-/

namespace WalletEvents

/-- The parts one after the other, with a comma before each but the first. -/
def commaJoin {α : Type} (comma : α) : List (List α) → List α
  | [] => []
  | part :: rest => part ++ rest.flatMap (comma :: ·)

theorem flatMap_commaJoin
    {α β : Type} (f : α → List β) (comma : α) (comma' : β) (hcomma : f comma = [comma'])
    (parts : List (List α)) :
    (commaJoin comma parts).flatMap f = commaJoin comma' (parts.map (List.flatMap f)) := by
  cases parts with
  | nil => rfl
  | cons part rest =>
      have hrest : (rest.flatMap (comma :: ·)).flatMap f =
          (rest.map (List.flatMap f)).flatMap (comma' :: ·) := by
        induction rest with
        | nil => rfl
        | cons next rest ih => simp [ih, hcomma]
      simp [commaJoin, hrest]

namespace Json

/-- The characters of a string in quotation marks. -/
def stringChars (text : String) : List Char :=
  '"' :: text.toList.flatMap escapeChar ++ ['"']

mutual

/-- The characters of a value. -/
def chars : Json → List Char
  | .null => ['n', 'u', 'l', 'l']
  | .boolean true => ['t', 'r', 'u', 'e']
  | .boolean false => ['f', 'a', 'l', 's', 'e']
  | .number n => n.text.toList
  | .string s => stringChars s
  | .array items => '[' :: commaJoin ',' (itemChars items) ++ [']']
  | .object members => '\x7b' :: commaJoin ',' (memberChars members) ++ ['\x7d']

/-- The characters of the items of an array. -/
def itemChars : List Json → List (List Char)
  | [] => []
  | item :: rest => chars item :: itemChars rest

/-- The characters of the members of an object. -/
def memberChars : List (String × Json) → List (List Char)
  | [] => []
  | (name, value) :: rest => (stringChars name ++ ':' :: chars value) :: memberChars rest

end

theorem toList_foldl_push (text : List Char) (written : String) :
    (text.foldl String.push written).toList = written.toList ++ text := by
  induction text generalizing written with
  | nil => simp
  | cons c rest ih => simp [ih]

theorem toList_writeChars (text : List Char) (written : String) :
    (writeChars written text).toList = written.toList ++ text.flatMap escapeChar := by
  unfold writeChars
  induction text generalizing written with
  | nil => simp
  | cons c rest ih => simp [ih, toList_foldl_push]

theorem toList_writeString (written text : String) :
    (writeString written text).toList = written.toList ++ stringChars text := by
  simp [writeString, toList_writeChars, stringChars]

/-- What stands before the parts that are still to be written. -/
def commaBefore (first : Bool) (parts : List (List Char)) : List Char :=
  if first then commaJoin ',' parts else parts.flatMap (',' :: ·)

theorem commaBefore_cons (first : Bool) (part : List Char) (rest : List (List Char)) :
    commaBefore first (part :: rest) =
      (if first then [] else [',']) ++ part ++ commaBefore false rest := by
  cases first <;> simp [commaBefore, commaJoin]

mutual

theorem toList_write (written : String) (value : Json) :
    (write written value).toList = written.toList ++ chars value := by
  match value with
  | .null => simp [write, chars]
  | .boolean true => simp [write, chars]
  | .boolean false => simp [write, chars]
  | .number n => simp [write, chars]
  | .string s => simp [write, chars, toList_writeString]
  | .array items =>
      have hitems := toList_writeItems (written.push '[') true items
      simp [write, chars, hitems, commaBefore]
  | .object members =>
      have hmembers := toList_writeMembers (written.push '\x7b') true members
      simp [write, chars, hmembers, commaBefore]

theorem toList_writeItems (written : String) (first : Bool) (items : List Json) :
    (writeItems written first items).toList =
      written.toList ++ commaBefore first (itemChars items) := by
  match items with
  | [] => cases first <;> simp [writeItems, itemChars, commaBefore, commaJoin]
  | item :: rest =>
      rw [writeItems, toList_writeItems, toList_write, itemChars, commaBefore_cons]
      cases first <;> simp

theorem toList_writeMembers (written : String) (first : Bool) (members : List (String × Json)) :
    (writeMembers written first members).toList =
      written.toList ++ commaBefore first (memberChars members) := by
  match members with
  | [] => cases first <;> simp [writeMembers, memberChars, commaBefore, commaJoin]
  | (name, value) :: rest =>
      have hvalue := toList_write
        ((writeString (if first then written else written.push ',') name).push ':') value
      rw [writeMembers, toList_writeMembers, hvalue, memberChars, commaBefore_cons]
      cases first <;> simp [toList_writeString]

end

/-- The compressed text consists of the characters of the value. -/
theorem toList_compress (value : Json) :
    value.compress.toList = chars value := by
  simp [compress, toList_write]

/-- The pieces that a character is spelled with. -/
def charPieces (c : Char) : List Piece :=
  if c.toNat < 32 ∧ c.toNat ∉ [8, 9, 10, 12, 13] then [.unit c.toNat.toUInt16]
  else (String.utf8EncodeChar c).map .byte

/-- The pieces that a string is spelled with. -/
def pieces (text : String) : List Piece := text.toList.flatMap charPieces

theorem utf8?_bytes (bytes : List UInt8) (rest : List Piece) (written : List UInt8) :
    Piece.utf8? (bytes.map .byte ++ rest) written =
      Piece.utf8? rest (bytes.reverse ++ written) := by
  induction bytes generalizing written with
  | nil => rfl
  | cons b bytes ih => simp [Piece.utf8?, ih]

theorem utf8?_charPieces (c : Char) (rest : List Piece) (written : List UInt8) :
    Piece.utf8? (charPieces c ++ rest) written =
      Piece.utf8? rest ((String.utf8EncodeChar c).reverse ++ written) := by
  unfold charPieces
  split
  · rename_i hc
    have hunit : c.toNat.toUInt16.toNat = c.toNat := by
      simp
      omega
    have hsmall : c.toNat.toUInt16 < 0xd800 := by
      rw [UInt16.lt_iff_toNat_lt, hunit]
      have hlimit : (0xd800 : UInt16).toNat = 0xd800 := rfl
      omega
    rw [List.singleton_append, Piece.utf8?.eq_def]
    dsimp only
    rw [if_pos (Or.inl hsmall), hunit, Char.ofNat_toNat, List.reverseAux_eq]
  · exact utf8?_bytes _ rest written

theorem utf8?_pieces (text : List Char) (written : List UInt8) :
    Piece.utf8? (text.flatMap charPieces) written = some (written.reverse ++ Utf8.bytes text) := by
  induction text generalizing written with
  | nil => simp [Piece.utf8?]
  | cons c rest ih => simp [utf8?_charPieces, ih, Utf8.bytes_cons]

/-- **The pieces of a string give the string back.** -/
theorem text?_pieces (text : String) :
    Piece.text? (pieces text) = some text := by
  have hutf8 : Piece.utf8? (pieces text) [] = some (Utf8.encode text) := by
    rw [pieces, utf8?_pieces, Utf8.encode_eq_bytes]
    rfl
  unfold Piece.text?
  rw [hutf8]
  exact Utf8.decode?_encode text

theorem pieces_injective :
    Function.Injective pieces := by
  intro s t h
  have hs := text?_pieces s
  rw [h, text?_pieces] at hs
  exact (Option.some.inj hs).symm

end Json

end WalletEvents
