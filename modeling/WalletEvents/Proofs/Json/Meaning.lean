import WalletEvents.Proofs.Json.Canonical

/-!
# The value that a JSON text denotes

A JSON text may be spelled in many ways. `JsonValue` is what all spellings of one
value have in common: an object is the map from its names to their values, so the
order of its members and the members that are overruled are gone, a string is its
decoded text, and a double is its 64 bits. An integer is never a double.

`JsonText.meaning?` reads this off the tree of a text, without a sort and without
a limit on the nesting.

**Result.** The canonical value of a text has the meaning of the text
(`JsonText.meaning?_of_value?`), and canonical values are told apart by their
meanings (`Json.Regular.eq_of_meaning_eq`). So two texts have one canonical value
exactly when they denote the same: `Json.eq_iff_denotes_eq`.
-/

namespace WalletEvents

/-- What a JSON text denotes. -/
inductive JsonValue where
  | null
  | boolean (value : Bool)
  | integer (value : Int)
  | double (bits : Nat)
  | string (value : String)
  | array (items : List JsonValue)
  | object (valueOf : String → Option JsonValue)

/-- The stored bits tell doubles apart. -/
theorem Double.bits_injective :
    Function.Injective Double.bits := by
  rintro ⟨negative, mantissa, exponent, stored⟩ ⟨negative', mantissa', exponent', stored'⟩ h
  simp only [Double.bits] at h
  have hparts : negative = negative' ∧ mantissa = mantissa' ∧ exponent = exponent' := by
    cases negative <;> cases negative' <;> simp only [if_true, Bool.false_eq_true, if_false] at h <;>
      split at h <;> split at h <;> simp <;> omega
  obtain ⟨rfl, rfl, rfl⟩ := hparts
  rfl

namespace Json

def Number.meaning : Number → JsonValue
  | .integer i _ => .integer i
  | .double d => .double d.bits

theorem Number.meaning_injective :
    Function.Injective Number.meaning := by
  intro n m h
  cases n with
  | integer i fits =>
      cases m with
      | integer j fits' =>
          obtain rfl : i = j := by simpa [meaning] using h
          rfl
      | double d => simp [meaning] at h
  | double d =>
      cases m with
      | integer j fits' => simp [meaning] at h
      | double e =>
          have hbits : d.bits = e.bits := by simpa [meaning] using h
          rw [Double.bits_injective hbits]

mutual

/-- The meaning of a value. -/
def meaning : Json → JsonValue
  | .null => .null
  | .boolean b => .boolean b
  | .number n => n.meaning
  | .string s => .string s
  | .array items => .array (itemMeanings items)
  | .object members => .object fun name => lastOf? name (memberMeanings members)

/-- The meanings of the items of an array. -/
def itemMeanings : List Json → List JsonValue
  | [] => []
  | item :: rest => meaning item :: itemMeanings rest

/-- The members of an object with the meanings of their values. -/
def memberMeanings : List (String × Json) → List (String × JsonValue)
  | [] => []
  | (name, value) :: rest => (name, meaning value) :: memberMeanings rest

end

theorem memberMeanings_eq (members : List (String × Json)) :
    memberMeanings members = members.map fun member => (member.1, meaning member.2) := by
  induction members with
  | nil => rfl
  | cons member rest ih => rw [memberMeanings, ih, List.map_cons]

end Json

namespace JsonText

open Json (Piece lastOf? itemMeanings memberMeanings)

mutual

/-- What a text denotes: of the members of one name, the last one counts. -/
def meaning? : JsonText → Option JsonValue
  | .null => some .null
  | .boolean b => some (.boolean b)
  | .number n => n.value?.map Json.Number.meaning
  | .string s => (Piece.text? s).map .string
  | .array items => (itemMeanings? items).map .array
  | .object members =>
    (memberMeanings? members).map fun named => .object fun name => lastOf? name named

/-- What the items of an array denote. -/
def itemMeanings? : List JsonText → Option (List JsonValue)
  | [] => some []
  | item :: rest => do some ((← meaning? item) :: (← itemMeanings? rest))

/-- The decoded names of the members of an object, and what their values denote. -/
def memberMeanings? : List (List Piece × JsonText) → Option (List (String × JsonValue))
  | [] => some []
  | (name, value) :: rest => do
    some (((← Piece.text? name), (← meaning? value)) :: (← memberMeanings? rest))

end

mutual

/-- **A text denotes what its value denotes.** -/
theorem meaning?_of_value?
    (t : JsonText) {depth : Nat} {v : Json} (h : t.value? depth = some v) :
    t.meaning? = some v.meaning := by
  match t with
  | .null =>
      obtain rfl : Json.null = v := by simpa [value?] using h
      rfl
  | .boolean b =>
      obtain rfl : Json.boolean b = v := by simpa [value?] using h
      rfl
  | .number n =>
      rw [value?, Option.map_eq_some_iff] at h
      obtain ⟨number, hnumber, rfl⟩ := h
      rw [meaning?, hnumber, Option.map_some, Json.meaning]
  | .string pieces =>
      rw [value?, Option.map_eq_some_iff] at h
      obtain ⟨text, htext, rfl⟩ := h
      rw [meaning?, htext, Option.map_some, Json.meaning]
  | .array items =>
      obtain ⟨_, values, -, rfl, hvalues⟩ := value?_array_inv h
      rw [meaning?, itemMeanings?_of_values items hvalues, Option.map_some, Json.meaning]
  | .object members =>
      obtain ⟨_, named, -, rfl, hnamed⟩ := value?_object_inv h
      rw [meaning?, memberMeanings?_of_values members hnamed, Option.map_some, Json.objectOf,
        Json.meaning]
      refine congrArg (some ∘ JsonValue.object) (funext fun name => ?_)
      rw [Json.memberMeanings_eq, Json.memberMeanings_eq, Json.lastOf?_map, Json.lastOf?_map,
        Json.lastOf?_sortMembers]

theorem itemMeanings?_of_values
    (items : List JsonText) {depth : Nat} {values : List Json}
    (h : List.Forall₂ (fun item value => item.value? depth = some value) items values) :
    itemMeanings? items = some (itemMeanings values) := by
  match items, values, h with
  | [], [], _ => rfl
  | item :: items, value :: values, .cons hitem hitems =>
      rw [itemMeanings?, meaning?_of_value? item hitem, itemMeanings?_of_values items hitems]
      rfl

theorem memberMeanings?_of_values
    (members : List (List Piece × JsonText)) {depth : Nat} {named : List (String × Json)}
    (h : List.Forall₂ (MemberOf depth) members named) :
    memberMeanings? members = some (memberMeanings named) := by
  match members, named, h with
  | [], [], _ => rfl
  | (pieces, tree) :: members, (name, value) :: named, .cons hmember hmembers =>
      obtain ⟨hname, hvalue⟩ := hmember
      rw [memberMeanings?, hname, meaning?_of_value? tree hvalue,
        memberMeanings?_of_values members hmembers]
      rfl

end

end JsonText

namespace Json

section Parts

variable {depth depth' : Nat}
  (hvalue : ∀ {v w : Json}, Regular depth v → Regular depth' w → v.meaning = w.meaning → v = w)

include hvalue

theorem eq_of_itemMeanings_eq
    {items others : List Json}
    (hitems : ∀ item ∈ items, Regular depth item) (hothers : ∀ other ∈ others, Regular depth' other)
    (h : itemMeanings items = itemMeanings others) :
    items = others := by
  induction items generalizing others with
  | nil =>
      cases others with
      | nil => rfl
      | cons other others => simp [itemMeanings] at h
  | cons item items ih =>
      cases others with
      | nil => simp [itemMeanings] at h
      | cons other others =>
          obtain ⟨hitem, hrest⟩ := List.cons.inj h
          rw [hvalue (hitems item List.mem_cons_self) (hothers other List.mem_cons_self) hitem,
            ih (fun item hmem => hitems item (List.mem_cons_of_mem _ hmem))
              (fun other hmem => hothers other (List.mem_cons_of_mem _ hmem)) hrest]

theorem eq_of_memberMeanings_eq
    {members others : List (String × Json)}
    (hascending : Ascending members) (hascending' : Ascending others)
    (hmembers : ∀ member ∈ members, Regular depth member.2)
    (hothers : ∀ other ∈ others, Regular depth' other.2)
    (h : ∀ name, lastOf? name (memberMeanings members) = lastOf? name (memberMeanings others)) :
    members = others := by
  refine hascending.eq_of_lastOf?_eq hascending' fun name => ?_
  have hname := h name
  rw [memberMeanings_eq, memberMeanings_eq, lastOf?_map, lastOf?_map] at hname
  cases hlast : lastOf? name members with
  | none =>
      rw [hlast, Option.map_none, eq_comm, Option.map_eq_none_iff] at hname
      rw [hname]
  | some a =>
      rw [hlast, Option.map_some, eq_comm, Option.map_eq_some_iff] at hname
      obtain ⟨b, hb, hab⟩ := hname
      have heq : a = b :=
        hvalue (hmembers _ (mem_of_lastOf? hlast)) (hothers _ (mem_of_lastOf? hb)) hab.symm
      rw [hb, heq]

end Parts

/-- **The meaning determines a canonical value.** -/
theorem Regular.eq_of_meaning_eq
    {depth depth' : Nat} {v w : Json} (hv : Regular depth v) (hw : Regular depth' w)
    (h : v.meaning = w.meaning) :
    v = w := by
  induction depth using Nat.strongRecOn generalizing depth' v w with | ind depth ih => ?_
  cases v with
  | null =>
      cases w with
      | null => rfl
      | number n => cases n <;> simp [meaning, Number.meaning] at h
      | _ => simp [meaning] at h
  | boolean b =>
      cases w with
      | boolean b' => simpa [meaning] using h
      | number n => cases n <;> simp [meaning, Number.meaning] at h
      | _ => simp [meaning] at h
  | number n =>
      cases w with
      | number m =>
          have hnumber : n.meaning = m.meaning := by simpa [meaning] using h
          rw [Number.meaning_injective hnumber]
      | _ => cases n <;> simp [meaning, Number.meaning] at h
  | string s =>
      cases w with
      | string s' => simpa [meaning] using h
      | number n => cases n <;> simp [meaning, Number.meaning] at h
      | _ => simp [meaning] at h
  | array items =>
      cases w with
      | array others =>
          obtain ⟨depth, rfl, hitems⟩ := hv.array_inv
          obtain ⟨depth', rfl, hothers⟩ := hw.array_inv
          have hsame : itemMeanings items = itemMeanings others := by simpa [meaning] using h
          have heq := eq_of_itemMeanings_eq (ih depth (Nat.lt_succ_self depth)) hitems
            hothers hsame
          rw [heq]
      | number n => cases n <;> simp [meaning, Number.meaning] at h
      | _ => simp [meaning] at h
  | object members =>
      cases w with
      | object others =>
          obtain ⟨depth, rfl, hascending, hmembers⟩ := hv.object_inv
          obtain ⟨depth', rfl, hascending', hothers⟩ := hw.object_inv
          have hsame := JsonValue.object.inj h
          have heq := eq_of_memberMeanings_eq (ih depth (Nat.lt_succ_self depth)) hascending
            hascending' hmembers hothers (congrFun hsame)
          rw [heq]
      | number n => cases n <;> simp [meaning, Number.meaning] at h
      | _ => simp [meaning] at h

end Json

/-- What a whole JSON text denotes. -/
def JsonValue.parse? (text : List UInt8) : Option JsonValue :=
  (JsonText.parse? text).bind JsonText.meaning?

namespace Json

variable {text other : List UInt8} {v w : Json}

/-- A text that has a value denotes it. -/
theorem meaning_of_parse? (h : parse? text = some v) :
    JsonValue.parse? text = some v.meaning := by
  obtain ⟨tree, htree, hvalue⟩ := Option.bind_eq_some_iff.mp h
  rw [JsonValue.parse?, htree]
  exact JsonText.meaning?_of_value? tree hvalue

/-- **Texts with one canonical value are those that denote the same.** -/
theorem eq_iff_denotes_eq (hv : parse? text = some v) (hw : parse? other = some w) :
    v = w ↔ JsonValue.parse? text = JsonValue.parse? other := by
  rw [meaning_of_parse? hv, meaning_of_parse? hw, Option.some.injEq]
  constructor
  · rintro rfl
    rfl
  · exact (regular_of_parse? hv).eq_of_meaning_eq (regular_of_parse? hw)

end Json

end WalletEvents
