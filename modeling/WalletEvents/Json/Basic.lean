import WalletEvents.Json.Number

/-!
# JSON values

A JSON value with decoded texts. An object is a list of members, so that a record can be written in
the order of its fields; the canonical form of a value has the members of every object in the order
of their names, each name once.

**Canonical form.** `Json.objectOf` is the object of members in any order: the last member of a name
counts, and names are ordered by their code points, which is the order of their UTF-8 bytes.

**Writing.** `Json.compress` writes a value without any blank. A text escapes the quotation mark, the
reverse solidus and the control characters, and nothing else.
-/

namespace WalletEvents

/-- A JSON value. -/
inductive Json where
  | null
  | boolean (value : Bool)
  | number (value : Json.Number)
  | string (value : String)
  | array (items : List Json)
  | object (members : List (String × Json))
  deriving Inhabited

namespace Json

/-- The integer as a JSON number; every 64-bit integer is one. -/
def ofInt64 (i : Int64) : Json :=
  .number (.integer i.toInt ⟨i.le_toInt, Int.lt_of_lt_of_le i.toInt_lt (by decide)⟩)

/-- The fields of a record that are present, in the order of the record. -/
def record (fields : List (String × Option Json)) : Json :=
  .object (fields.filterMap fun (name, value) => value.map (name, ·))

/-- Keeps the last of the members of one name, in a list where members of one name stand together. -/
def lastOfEach {α : Type} : List (String × α) → List (String × α)
  | [] => []
  | [member] => [member]
  | (name, value) :: (name', value') :: rest =>
    if name = name' then lastOfEach ((name', value') :: rest)
    else (name, value) :: lastOfEach ((name', value') :: rest)

/-- The members in the order of their names, the last one of each name. -/
def sortMembers {α : Type} (members : List (String × α)) : List (String × α) :=
  lastOfEach (members.mergeSort fun a b => decide (a.1 ≤ b.1))

/-- The object with these members, where the last member of a name counts. -/
def objectOf (members : List (String × Json)) : Json := .object (sortMembers members)

/-- The digits of a number below 256 in base 16. -/
def hexPair (n : Nat) : List Char := [Nat.digitChar (n / 16), Nat.digitChar (n % 16)]

/-- A character of a JSON text, escaped if it has to be. -/
def escapeChar (c : Char) : List Char :=
  if c = '"' then ['\\', '"']
  else if c = '\\' then ['\\', '\\']
  else if c = '\x08' then ['\\', 'b']
  else if c = '\x0c' then ['\\', 'f']
  else if c = '\n' then ['\\', 'n']
  else if c = '\r' then ['\\', 'r']
  else if c = '\t' then ['\\', 't']
  else if c.toNat < 32 then '\\' :: 'u' :: '0' :: '0' :: hexPair c.toNat
  else [c]

/-- Writes the characters of a text behind what is written already. -/
def writeChars (written : String) (text : List Char) : String :=
  text.foldl (fun written c => (escapeChar c).foldl String.push written) written

/-- Writes a text in quotation marks. -/
def writeString (written : String) (text : String) : String :=
  (writeChars (written.push '"') text.toList).push '"'

mutual

/-- Writes a value without blanks behind what is written already. -/
def write (written : String) : Json → String
  | .null => written ++ "null"
  | .boolean true => written ++ "true"
  | .boolean false => written ++ "false"
  | .number n => written ++ n.text
  | .string s => writeString written s
  | .array items => (writeItems (written.push '[') true items).push ']'
  | .object members => (writeMembers (written.push '\x7b') true members).push '\x7d'

/-- Writes the items of an array, with a comma before each but the first. -/
def writeItems (written : String) (first : Bool) : List Json → String
  | [] => written
  | item :: rest =>
    writeItems (write (if first then written else written.push ',') item) false rest

/-- Writes the members of an object, with a comma before each but the first. -/
def writeMembers (written : String) (first : Bool) : List (String × Json) → String
  | [] => written
  | (name, value) :: rest =>
    let named := (writeString (if first then written else written.push ',') name).push ':'
    writeMembers (write named value) false rest

end

/-- The text of a value without blanks. -/
def compress (value : Json) : String := write "" value

end Json

end WalletEvents
