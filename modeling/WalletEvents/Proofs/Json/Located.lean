import WalletEvents.Proofs.Json.Documents

/-!
# Where a field stands in a text

A record is read from the value of a text. `JsonText.field?` finds the part of the text that a field
comes from: in an object the last member of its name, in an array the item at its place. The value
of this part is the field that is found in the value (`JsonText.exists_field`), whether the text
repeats the name or not, and a number comes from its literal (`JsonText.exists_numeral`).
-/

namespace WalletEvents

namespace JsonText

open Json (Piece SameNames)

/-- The members of an object with their names decoded. -/
def namedMembers (members : List (List Piece × JsonText)) : List (String × JsonText) :=
  members.filterMap fun (name, tree) => (Piece.text? name).map (·, tree)

/-- The part of a text that is a field of a record: the last member of its name, or the item at its
place. -/
def field? (names : List String) (name : String) : JsonText → Option JsonText
  | .array items => (names.zip items).lookup name
  | .object members => Json.lastOf? name (namedMembers members)
  | _ => none

variable {depth : Nat} {v d : Json}

theorem sameNames_namedMembers
    {members : List (List Piece × JsonText)} {named : List (String × Json)}
    (h : List.Forall₂ (MemberOf depth) members named) :
    SameNames (fun tree value => tree.value? depth = some value) (namedMembers members) named := by
  induction h with
  | nil => exact .nil
  | @cons member entry members named hmember _ ih =>
      obtain ⟨hname, hvalue⟩ := hmember
      have hcons : namedMembers (member :: members) =
          (entry.1, member.2) :: namedMembers members := by
        simp [namedMembers, hname]
      rw [hcons]
      exact .cons ⟨rfl, hvalue⟩ ih

/-- Only the values of arrays and objects have fields. -/
theorem value?_of_fields
    {tree : JsonText} {names : List String} {fields : Json.Fields Json}
    (hvalue : tree.value? depth = some v) (hfields : Json.fields? names v = some fields) :
    (∃ depth' items values, tree = .array items ∧ fields.given = names.zip values ∧
      List.Forall₂ (fun item value => item.value? depth' = some value) items values) ∨
    ∃ depth' members named, tree = .object members ∧
      fields.given = (Json.sortMembers named).filter (fun member => names.contains member.1) ∧
      List.Forall₂ (MemberOf depth') members named := by
  cases tree with
  | null =>
      obtain rfl : Json.null = v := by simpa [value?] using hvalue
      cases hfields
  | boolean b =>
      obtain rfl : Json.boolean b = v := by simpa [value?] using hvalue
      cases hfields
  | number n =>
      rw [value?, Option.map_eq_some_iff] at hvalue
      obtain ⟨number, -, rfl⟩ := hvalue
      cases hfields
  | string pieces =>
      rw [value?, Option.map_eq_some_iff] at hvalue
      obtain ⟨text, -, rfl⟩ := hvalue
      cases hfields
  | array items =>
      obtain ⟨depth', values, rfl, rfl, hvalues⟩ := value?_array_inv hvalue
      refine .inl ⟨depth', items, values, rfl, ?_, hvalues⟩
      have hnode : Json.fields? names (.array values) =
          if values.length ≤ names.length then some ⟨names.zip values, true⟩ else none := rfl
      rw [hnode] at hfields
      split at hfields
      · cases hfields
        rfl
      · cases hfields
  | object members =>
      obtain ⟨depth', named, rfl, rfl, hnamed⟩ := value?_object_inv hvalue
      refine .inr ⟨depth', members, named, rfl, ?_, hnamed⟩
      have hnode : Json.fields? names (Json.objectOf named) =
          if (((Json.sortMembers named).filter fun member => names.contains member.1).map
              Prod.fst).Nodup then
            some ⟨(Json.sortMembers named).filter fun member => names.contains member.1, false⟩
          else none := rfl
      rw [hnode] at hfields
      split at hfields
      · cases hfields
        rfl
      · cases hfields

/-- A field of the value of a text is the value of that field of the text. -/
theorem exists_field
    {tree : JsonText} {names : List String} {name : String} {fields : Json.Fields Json}
    (hvalue : tree.value? depth = some v) (hfields : Json.fields? names v = some fields)
    (hname : name ∈ names) (hd : fields.given.lookup name = some d) :
    ∃ part depth', tree.field? names name = some part ∧ part.value? depth' = some d := by
  have hfound : ∀ {depth' : Nat} {part? : Option JsonText},
      Option.Rel (fun part value => part.value? depth' = some value) part? (some d) →
        ∃ part depth', part? = some part ∧ part.value? depth' = some d := by
    rintro depth' _ (⟨hpart⟩)
    exact ⟨_, depth', rfl, hpart⟩
  rcases value?_of_fields hvalue hfields with ⟨depth', items, values, rfl, hgiven, hvalues⟩ |
    ⟨depth', members, named, rfl, hgiven, hnamed⟩
  · have hrel := Json.rel_lookup_zip hvalues names name
    rw [← hgiven, hd] at hrel
    exact hfound hrel
  · rw [hgiven, Json.lookup_filter_of_mem hname, (Json.ascending_sortMembers named).lookup_eq,
      Json.lastOf?_sortMembers] at hd
    have hrel := Json.rel_lastOf? (R := fun tree value => value? depth' tree = some value)
      (sameNames_namedMembers hnamed) name
    rw [hd] at hrel
    exact hfound hrel

/-- Only a literal of a number has a number as its value. -/
theorem exists_numeral
    {tree : JsonText} {depth : Nat} {d : Json} {m : Json.Number}
    (hvalue : tree.value? depth = some d) (hnumber : Json.number? d = some m) :
    ∃ numeral, tree = .number numeral ∧ numeral.value? = some m := by
  cases tree with
  | null =>
      obtain rfl : Json.null = d := by simpa [value?] using hvalue
      cases hnumber
  | boolean b =>
      obtain rfl : Json.boolean b = d := by simpa [value?] using hvalue
      cases hnumber
  | number numeral =>
      rw [value?, Option.map_eq_some_iff] at hvalue
      obtain ⟨number, hnumeral, rfl⟩ := hvalue
      cases hnumber
      exact ⟨numeral, rfl, hnumeral⟩
  | string pieces =>
      rw [value?, Option.map_eq_some_iff] at hvalue
      obtain ⟨text, -, rfl⟩ := hvalue
      cases hnumber
  | array items =>
      obtain ⟨_, values, -, rfl, -⟩ := value?_array_inv hvalue
      cases hnumber
  | object members =>
      obtain ⟨_, named, -, rfl, -⟩ := value?_object_inv hvalue
      cases hnumber

end JsonText

end WalletEvents
