import WalletEvents.Json.Text

/-!
# Reading typed data

A reader of typed data looks at a document one node at a time. The same readers serve two kinds of
documents: a JSON value, and the tree of a JSON text that has not been given a value yet.

**Unread texts.** Of an unread text only the parts that a reader looks at have to make sense, and a
member that no field asks for may hold anything. A member that a field asks for may stand only once.
In a value every name is unique, the last member of a name having counted.

**Records.** A record is given as an object, or as an array of its fields in their order.
-/

namespace WalletEvents

namespace Json

/-- One node of a document, with the documents below it. -/
inductive Node (δ : Type) where
  | null
  | boolean (value : Bool)
  | number (value : Number)
  | string (value : String)
  | array (items : List δ)
  | object (members : List (String × δ))

/-- A document that readers can look into. -/
class Document (δ : Type) where
  /-- The node at the top, unless it makes no sense. -/
  node? : δ → Option (Node δ)
  /-- The value of the whole document, unless some part of it makes no sense. -/
  value? : δ → Option Json

/-- The node at the top of a value. -/
def topNode : Json → Node Json
  | .null => .null
  | .boolean b => .boolean b
  | .number n => .number n
  | .string s => .string s
  | .array items => .array items
  | .object members => .object members

instance : Document Json := ⟨fun j => some j.topNode, some⟩

/-- The tree of a text that may still be nested `depth` containers deep. -/
structure Unread where
  depth : Nat
  tree : JsonText

namespace Unread

/-- The node at the top of an unread text; the names in an object have to be Unicode. -/
def node? : Unread → Option (Node Unread)
  | ⟨_, .null⟩ => some .null
  | ⟨_, .boolean b⟩ => some (.boolean b)
  | ⟨_, .number n⟩ => n.value?.map .number
  | ⟨_, .string s⟩ => (Piece.text? s).map .string
  | ⟨depth + 1, .array items⟩ => some (.array (items.map (⟨depth, ·⟩)))
  | ⟨depth + 1, .object members⟩ =>
    (members.mapM fun (name, value) => do
      some ((← Piece.text? name), (⟨depth, value⟩ : Unread))).map .object
  | ⟨0, .array _⟩ => none
  | ⟨0, .object _⟩ => none

instance : Document Unread := ⟨node?, fun u => u.tree.value? u.depth⟩

end Unread

/-- The document of a whole text. -/
def unread? (text : List UInt8) : Option Unread :=
  (JsonText.parse? text).map (⟨JsonText.depthLimit, ·⟩)

section Readers

variable {δ α : Type} [Document δ]

/-- The whole document as a value. -/
def any? (d : δ) : Option Json := Document.value? d

/-- A truth value. -/
def boolean? (d : δ) : Option Bool :=
  match Document.node? d with
  | some (.boolean b) => some b
  | _ => none

def number? (d : δ) : Option Number :=
  match Document.node? d with
  | some (.number n) => some n
  | _ => none

def text? (d : δ) : Option String :=
  match Document.node? d with
  | some (.string s) => some s
  | _ => none

/-- An integer; a double is none, whatever its value. -/
def integer? (d : δ) : Option Int :=
  match number? d with
  | some (.integer i _) => some i
  | _ => none

/-- An integer that is at most `most` and not negative. -/
def natural? (most : Nat) (d : δ) : Option Nat := do
  let i ← integer? d
  if 0 ≤ i ∧ i ≤ most then some i.toNat else none

/-- A signed integer of 64 bits. -/
def int64? (d : δ) : Option Int64 := do
  let i ← integer? d
  if -2 ^ 63 ≤ i ∧ i < 2 ^ 63 then some (Int64.ofInt i) else none

/-- A number as a double. -/
def double? (d : δ) : Option Double := (number? d).map Number.toDouble

/-- An array of documents that are all read alike. -/
def list? (read : δ → Option α) (d : δ) : Option (List α) :=
  match Document.node? d with
  | some (.array items) => items.mapM read
  | _ => none

/-- Nothing for `null`, and what is read for all else. -/
def nullable? (read : δ → Option α) (d : δ) : Option (Option α) :=
  match Document.node? d with
  | some .null => some none
  | _ => (read d).map some

/-- One of a list of named values: its name, or an object of its name alone with `null`. -/
def choice? (named : List (String × α)) (d : δ) : Option α :=
  match Document.node? d with
  | some (.string name) => named.lookup name
  | some (.object [(name, value)]) =>
    match Document.node? value with
    | some .null => named.lookup name
    | _ => none
  | _ => none

/-- The fields of a record that are given, and whether they are given by their position. -/
structure Fields (δ : Type) where
  given : List (String × δ)
  byPosition : Bool

/-- The fields of a record with these names. -/
def fields? (names : List String) (d : δ) : Option (Fields δ) :=
  match Document.node? d with
  | some (.object members) =>
    let known := members.filter fun member => names.contains member.1
    if (known.map Prod.fst).Nodup then some ⟨known, false⟩ else none
  | some (.array items) =>
    if items.length ≤ names.length then some ⟨names.zip items, true⟩ else none
  | _ => none

/-- The fields of a record that may have no other members. -/
def exactFields? (names : List String) (d : δ) : Option (Fields δ) :=
  match Document.node? d with
  | some (.object members) =>
    if members.all fun member => names.contains member.1 then fields? names d else none
  | _ => fields? names d

namespace Fields

variable (fields : Fields δ)

/-- A field that has to be given. -/
def required? (name : String) (read : δ → Option α) : Option α :=
  (fields.given.lookup name).bind read

/-- A field that may be `null` or, unless fields are given by position, missing. -/
def optional? (name : String) (read : δ → Option α) : Option (Option α) :=
  match fields.given.lookup name with
  | some d => nullable? read d
  | none => if fields.byPosition then none else some none

/-- A field with a value of its own when it is missing. -/
def getD? (name : String) (default : α) (read : δ → Option α) : Option α :=
  match fields.given.lookup name with
  | some d => read d
  | none => some default

end Fields

end Readers

end Json

end WalletEvents
