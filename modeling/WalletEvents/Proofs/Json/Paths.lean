import WalletEvents.Proofs.Json.Documents

/-!
# A text and its value

A text can be read as it stands, or its value can be read. The value has sorted
members, each name once, and it exists only if the whole text makes sense, while a
reader of the text looks at what it asks for and at nothing else.

**Results.** What is found in a text is found in its value (`simulates_stands`).
What is found in the value is found in the text if no object of the text repeats a
name (`simulates_distinct`); otherwise the reader of the text may come upon the
repeated name and give up.
-/

namespace WalletEvents

open Json (Piece Node NodeRel SameNames Simulates Unread)

/-- No object of the text repeats a name, however the names are spelled. -/
inductive JsonText.NamesDistinct : JsonText → Prop where
  | null : NamesDistinct .null
  | boolean (b : Bool) : NamesDistinct (.boolean b)
  | number (n : Json.Numeral) : NamesDistinct (.number n)
  | string (pieces : List Piece) : NamesDistinct (.string pieces)
  | array {items : List JsonText} (hitems : ∀ item ∈ items, NamesDistinct item) :
      NamesDistinct (.array items)
  | object {members : List (List Piece × JsonText)}
      (hnames : (members.map fun member => Piece.text? member.1).Nodup)
      (hvalues : ∀ member ∈ members, NamesDistinct member.2) :
      NamesDistinct (.object members)

namespace Json.Unread

/-- The value of an unread text. -/
def Stands (u : Unread) (v : Json) : Prop := u.tree.value? u.depth = some v

/-- The value of an unread text that repeats no name. -/
def StandsDistinct (u : Unread) (v : Json) : Prop := u.Stands v ∧ u.tree.NamesDistinct

/-- A member of a text with its decoded name and an unread value. -/
def Decoded (depth : Nat) (member : List Piece × JsonText) (named : String × Unread) : Prop :=
  Piece.text? member.1 = some named.1 ∧ named.2 = ⟨depth, member.2⟩

theorem node?_object_iff
    {depth : Nat} {members : List (List Piece × JsonText)} {unread : List (String × Unread)} :
    node? ⟨depth + 1, .object members⟩ = some (.object unread) ↔
      List.Forall₂ (Decoded depth) members unread := by
  have hdecoded : ∀ member named, (do
      let name ← Piece.text? member.1
      some (name, (⟨depth, member.2⟩ : Unread))) = some named ↔ Decoded depth member named := by
    rintro ⟨pieces, tree⟩ ⟨name, u⟩
    cases hname : Piece.text? pieces <;> simp [Decoded, hname, eq_comm]
  rw [node?, Option.map_eq_some_iff]
  constructor
  · rintro ⟨unread', hmembers, ⟨⟩⟩
    exact (mapM_eq_some_iff.mp hmembers).imp fun member named => (hdecoded member named).mp
  · intro hmembers
    exact ⟨unread, mapM_eq_some_iff.mpr (hmembers.imp fun member named =>
      (hdecoded member named).mpr), rfl⟩

theorem map_text?_of_decoded
    {depth : Nat} {members : List (List Piece × JsonText)} {unread : List (String × Unread)}
    (h : List.Forall₂ (Decoded depth) members unread) :
    (members.map fun member => Piece.text? member.1) = (unread.map Prod.fst).map some := by
  induction h with
  | nil => rfl
  | cons hmember _ ih => rw [List.map_cons, List.map_cons, List.map_cons, ih, hmember.1]

/-- The members of a text whose names can be decoded, beside those of its value. -/
theorem exists_decoded
    {R : Unread → Json → Prop} {depth : Nat} {members : List (List Piece × JsonText)}
    {named : List (String × Json)}
    (h : List.Forall₂
      (fun member entry => Piece.text? member.1 = some entry.1 ∧ R ⟨depth, member.2⟩ entry.2)
      members named) :
    ∃ unread, List.Forall₂ (Decoded depth) members unread ∧ SameNames R unread named := by
  induction h with
  | nil => exact ⟨[], .nil, .nil⟩
  | @cons member entry members named hmember _ ih =>
      obtain ⟨unread, hunread, hsame⟩ := ih
      exact ⟨(entry.1, ⟨depth, member.2⟩) :: unread, .cons ⟨hmember.1, rfl⟩ hunread,
        .cons ⟨rfl, hmember.2⟩ hsame⟩

/-- A text that makes sense is an array, an object, or without documents below it, as its value is. -/
theorem Stands.cases
    {u : Unread} {v : Json} (h : u.Stands v) :
    (∃ a, node? u = some a ∧ (∀ R, NodeRel R a v.topNode) ∧ ∀ R, NodeRel R v.topNode a) ∨
      (∃ depth items values, u = ⟨depth + 1, .array items⟩ ∧ v = .array values ∧
        List.Forall₂ (fun item value => Stands ⟨depth, item⟩ value) items values) ∨
      ∃ depth members named, u = ⟨depth + 1, .object members⟩ ∧ v = Json.objectOf named ∧
        List.Forall₂ (JsonText.MemberOf depth) members named := by
  obtain ⟨depth, tree⟩ := u
  rw [Stands] at h
  cases tree with
  | null =>
      obtain rfl : Json.null = v := by simpa [JsonText.value?] using h
      exact .inl ⟨.null, rfl, fun _ => .null, fun _ => .null⟩
  | boolean b =>
      obtain rfl : Json.boolean b = v := by simpa [JsonText.value?] using h
      exact .inl ⟨.boolean b, rfl, fun _ => .boolean b, fun _ => .boolean b⟩
  | number n =>
      rw [JsonText.value?, Option.map_eq_some_iff] at h
      obtain ⟨number, hnumber, rfl⟩ := h
      have hnode : node? ⟨depth, .number n⟩ = some (.number number) := by
        rw [node?, hnumber, Option.map_some]
      exact .inl ⟨_, hnode, fun _ => .number number, fun _ => .number number⟩
  | string pieces =>
      rw [JsonText.value?, Option.map_eq_some_iff] at h
      obtain ⟨text, htext, rfl⟩ := h
      have hnode : node? ⟨depth, .string pieces⟩ = some (.string text) := by
        rw [node?, htext, Option.map_some]
      exact .inl ⟨_, hnode, fun _ => .string text, fun _ => .string text⟩
  | array items =>
      obtain ⟨depth, values, rfl, rfl, hvalues⟩ := JsonText.value?_array_inv h
      exact .inr (.inl ⟨depth, items, values, rfl, rfl, hvalues⟩)
  | object members =>
      obtain ⟨depth, named, rfl, rfl, hnamed⟩ := JsonText.value?_object_inv h
      exact .inr (.inr ⟨depth, members, named, rfl, rfl, hnamed⟩)

/-- **What is found in a text is found in its value.** -/
theorem simulates_stands :
    Simulates Stands where
  value := by
    intro u v h w hw
    exact (h.symm.trans hw) ▸ rfl
  node := by
    intro u v h
    rcases h.cases with ⟨a, ha, hrel, -⟩ | ⟨depth, items, values, rfl, rfl, hvalues⟩ |
      ⟨depth, members, named, rfl, rfl, hnamed⟩
    · exact ⟨a, v.topNode, ha, rfl, hrel Stands⟩
    · exact ⟨_, _, rfl, rfl, .array (List.forall₂_map_left_iff.mpr hvalues)⟩
    · obtain ⟨unread, hunread, hsame⟩ := exists_decoded (R := Stands) hnamed
      exact ⟨_, _, node?_object_iff.mpr hunread, rfl, .object hsame.sorted⟩

/-- **What is found in a value is found in its text** if the text repeats no name. -/
theorem simulates_distinct :
    Simulates fun v u => StandsDistinct u v where
  value := by
    intro v u h w hw
    exact (Option.some.inj hw) ▸ h.1
  node := by
    rintro v u ⟨h, hdistinct⟩
    rcases h.cases with ⟨a, ha, -, hrel⟩ | ⟨depth, items, values, rfl, rfl, hvalues⟩ |
      ⟨depth, members, named, rfl, rfl, hnamed⟩
    · exact ⟨v.topNode, a, rfl, ha, hrel _⟩
    · cases hdistinct with
      | array hitems =>
          have hboth := (List.forall₂_and_left _ _).mpr ⟨hitems, hvalues⟩
          refine ⟨_, _, rfl, rfl, .array (List.forall₂_map_right_iff.mpr ?_)⟩
          exact (hboth.imp fun _ _ hitem => ⟨hitem.2, hitem.1⟩).flip
    · cases hdistinct with
      | object hnames hdistinct =>
          have hboth := (List.forall₂_and_left _ _).mpr ⟨hdistinct, hnamed⟩
          obtain ⟨unread, hunread, hsame⟩ := exists_decoded (R := StandsDistinct)
            (hboth.imp fun _ _ hmember => ⟨hmember.2.1, hmember.2.2, hmember.1⟩)
          rw [map_text?_of_decoded hunread] at hnames
          exact ⟨_, _, rfl, node?_object_iff.mpr hunread,
            .object (hsame.of_sorted (List.Nodup.of_map _ hnames))⟩

end Json.Unread

end WalletEvents
