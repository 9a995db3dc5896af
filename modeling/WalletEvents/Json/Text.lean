import WalletEvents.Json.Basic
import WalletEvents.Json.Token

/-!
# JSON texts as trees

A `JsonText` is the tree of a JSON text whose strings and numbers are still spelled as in the text.
It is found by a machine over the tokens that keeps the containers open at the moment on a stack, so
texts may be nested to any depth.

**Meaning.** `JsonText.value?` gives the value a text stands for. It refuses a text nested deeper than
its allowance, a string that is not Unicode and a number out of range, wherever they stand.
-/

namespace WalletEvents

/-- The tree of a JSON text, with strings and numbers as they are spelled. -/
inductive JsonText where
  | null
  | boolean (value : Bool)
  | number (numeral : Json.Numeral)
  | string (pieces : List Json.Piece)
  | array (items : List JsonText)
  | object (members : List (List Json.Piece × JsonText))
  deriving Inhabited

namespace Json.Piece

/-- The UTF-8 bytes of a string, or nothing when a surrogate has no partner. -/
def utf8? : List Piece → List UInt8 → Option (List UInt8)
  | [], written => some written.reverse
  | .byte b :: rest, written => utf8? rest (b :: written)
  | .unit u :: rest, written =>
    if u < 0xd800 ∨ 0xe000 ≤ u then
      utf8? rest ((String.utf8EncodeChar (Char.ofNat u.toNat)).reverseAux written)
    else if u < 0xdc00 then
      match rest with
      | .unit low :: rest =>
        if 0xdc00 ≤ low ∧ low < 0xe000 then
          let code := 0x10000 + (u.toNat - 0xd800) * 0x400 + (low.toNat - 0xdc00)
          utf8? rest ((String.utf8EncodeChar (Char.ofNat code)).reverseAux written)
        else none
      | _ => none
    else none

/-- The text of a string, or nothing when it is not Unicode. -/
def text? (pieces : List Piece) : Option String := do
  String.fromUTF8? ⟨(← utf8? pieces []).toArray⟩

end Json.Piece

namespace JsonText

/-- A container that is still open, with its parts so far, the last one first. -/
inductive Frame where
  | array (items : List JsonText)
  | object (members : List (List Json.Piece × JsonText)) (name : List Json.Piece)

/-- What may come next, and the containers that are open. -/
inductive State where
  | value (frames : List Frame)
  | firstItem (frames : List Frame)
  | firstName (frames : List Frame)
  | name (members : List (List Json.Piece × JsonText)) (frames : List Frame)
  | colon (members : List (List Json.Piece × JsonText)) (name : List Json.Piece)
      (frames : List Frame)
  | after (value : JsonText) (frames : List Frame)

def startValue? (frames : List Frame) : Json.Token → Option State
  | .null => some (.after .null frames)
  | .boolean b => some (.after (.boolean b) frames)
  | .number n => some (.after (.number n) frames)
  | .string s => some (.after (.string s) frames)
  | .openArray => some (.firstItem frames)
  | .openObject => some (.firstName frames)
  | _ => none

/-- One token: the state behind it, or nothing when it may not stand here. -/
def step? : State → Json.Token → Option State
  | .value frames, token => startValue? frames token
  | .firstItem frames, .closeArray => some (.after (.array []) frames)
  | .firstItem frames, token => startValue? (.array [] :: frames) token
  | .firstName frames, .closeObject => some (.after (.object []) frames)
  | .firstName frames, .string name => some (.colon [] name frames)
  | .name members frames, .string name => some (.colon members name frames)
  | .colon members name frames, .colon => some (.value (.object members name :: frames))
  | .after value (.array items :: frames), .comma =>
    some (.value (.array (value :: items) :: frames))
  | .after value (.array items :: frames), .closeArray =>
    some (.after (.array (value :: items).reverse) frames)
  | .after value (.object members name :: frames), .comma =>
    some (.name ((name, value) :: members) frames)
  | .after value (.object members name :: frames), .closeObject =>
    some (.after (.object ((name, value) :: members).reverse) frames)
  | _, _ => none

/-- Runs the machine over the tokens. -/
def run? (state : State) : List Json.Token → Option State
  | [] => some state
  | token :: rest =>
    match step? state token with
    | some next => run? next rest
    | none => none

/-- The tree of a whole text. -/
def parse? (text : List UInt8) : Option JsonText := do
  match ← run? (.value []) (← Json.tokens? text) with
  | .after value [] => some value
  | _ => none

/-- The deepest nesting of a text whose value is asked for. -/
def depthLimit : Nat := 127

/-- The value of a text that nests at most `depth` containers. -/
def value? : Nat → JsonText → Option Json
  | _, .null => some .null
  | _, .boolean b => some (.boolean b)
  | _, .number n => n.value?.map .number
  | _, .string s => (Json.Piece.text? s).map .string
  | depth + 1, .array items => (items.mapM (value? depth)).map .array
  | depth + 1, .object members =>
    (members.mapM fun (name, value) => do
      some ((← Json.Piece.text? name), (← value? depth value))).map Json.objectOf
  | 0, .array _ => none
  | 0, .object _ => none

end JsonText

/-- The value of a whole JSON text, in canonical form. -/
def Json.parse? (text : List UInt8) : Option Json := do
  (← JsonText.parse? text).value? JsonText.depthLimit

end WalletEvents
