import WalletEvents.Proofs.Json.Tokens
import WalletEvents.Webhook.Fingerprint

/-!
# Compressed texts tell values apart

A compressed text is read as the tree of its value, for values of any depth. Two
values with one tree are equal, since strings are given back by their pieces and
numbers have numerals of their own. So the compressed texts of different values
differ.

**Result.** If the digest does not collide on two texts, notices with one
fingerprint have one value.
-/

namespace WalletEvents

namespace Json

mutual

/-- The tree of the compressed text of a value. -/
def tree : Json → JsonText
  | .null => .null
  | .boolean b => .boolean b
  | .number n => .number n.numeral
  | .string s => .string (pieces s)
  | .array items => .array (itemTrees items)
  | .object members => .object (memberTrees members)

/-- The trees of the items of an array. -/
def itemTrees : List Json → List JsonText
  | [] => []
  | item :: rest => tree item :: itemTrees rest

/-- The trees of the members of an object. -/
def memberTrees : List (String × Json) → List (List Piece × JsonText)
  | [] => []
  | (name, value) :: rest => (pieces name, tree value) :: memberTrees rest

end

end Json

namespace JsonText

open Json (valueTokens itemTokens memberTokens)

theorem run?_cons
    {state next : State} {token : Json.Token} (h : step? state token = some next)
    (rest : List Json.Token) :
    run? state (token :: rest) = run? next rest := by
  simp [run?, h]

/-- No value begins with the end of an array. -/
theorem run?_firstItem (value : Json) (frames : List Frame) (rest : List Json.Token) :
    run? (.firstItem frames) (valueTokens value ++ rest) =
      run? (.value (.array [] :: frames)) (valueTokens value ++ rest) := by
  cases value <;> rfl

mutual

/-- **The tokens of a value are read as its tree.** -/
theorem run?_valueTokens (value : Json) (frames : List Frame) (rest : List Json.Token) :
    run? (.value frames) (valueTokens value ++ rest) = run? (.after value.tree frames) rest := by
  match value with
  | .null => rfl
  | .boolean b => rfl
  | .number n => rfl
  | .string s => rfl
  | .array [] => rfl
  | .array (item :: items) =>
      have hitem := run?_valueTokens item (.array [] :: frames)
        ((itemTokens items).flatMap (.comma :: ·) ++ .closeArray :: rest)
      have hitems := run?_itemTokens items item.tree [] frames rest
      have htokens : valueTokens (.array (item :: items)) ++ rest =
          .openArray :: (valueTokens item ++
            ((itemTokens items).flatMap (.comma :: ·) ++ .closeArray :: rest)) := by
        simp [valueTokens, itemTokens, commaJoin]
      rw [htokens, run?_cons rfl, run?_firstItem, hitem, hitems]
      rfl
  | .object [] => rfl
  | .object ((name, value) :: members) =>
      have hvalue := run?_valueTokens value (.object [] (Json.pieces name) :: frames)
        ((memberTokens members).flatMap (.comma :: ·) ++ .closeObject :: rest)
      have hmembers := run?_memberTokens members (Json.pieces name) value.tree [] frames rest
      have htokens : valueTokens (.object ((name, value) :: members)) ++ rest =
          .openObject :: .string (Json.pieces name) :: .colon :: (valueTokens value ++
            ((memberTokens members).flatMap (.comma :: ·) ++ .closeObject :: rest)) := by
        simp [valueTokens, memberTokens, commaJoin]
      rw [htokens, run?_cons rfl, run?_cons rfl, run?_cons rfl, hvalue, hmembers]
      rfl

theorem run?_itemTokens (items : List Json) (last : JsonText) (before : List JsonText)
    (frames : List Frame) (rest : List Json.Token) :
    run? (.after last (.array before :: frames))
      ((itemTokens items).flatMap (.comma :: ·) ++ .closeArray :: rest) =
      run? (.after (.array (before.reverse ++ last :: Json.itemTrees items)) frames) rest := by
  match items with
  | [] => simp [itemTokens, Json.itemTrees, run?, step?]
  | item :: items =>
      have hitem := run?_valueTokens item (.array (last :: before) :: frames)
        ((itemTokens items).flatMap (.comma :: ·) ++ .closeArray :: rest)
      have hitems := run?_itemTokens items item.tree (last :: before) frames rest
      rw [itemTokens, List.flatMap_cons, List.append_assoc, List.cons_append, run?_cons rfl,
        hitem, hitems]
      simp [Json.itemTrees]

theorem run?_memberTokens (members : List (String × Json)) (name : List Json.Piece)
    (last : JsonText) (before : List (List Json.Piece × JsonText))
    (frames : List Frame) (rest : List Json.Token) :
    run? (.after last (.object before name :: frames))
      ((memberTokens members).flatMap (.comma :: ·) ++ .closeObject :: rest) =
      run? (.after (.object (before.reverse ++ (name, last) :: Json.memberTrees members)) frames)
        rest := by
  match members with
  | [] => simp [memberTokens, Json.memberTrees, run?, step?]
  | (next, value) :: members =>
      have hvalue := run?_valueTokens value
        (.object ((name, last) :: before) (Json.pieces next) :: frames)
        ((memberTokens members).flatMap (.comma :: ·) ++ .closeObject :: rest)
      have hmembers := run?_memberTokens members (Json.pieces next) value.tree
        ((name, last) :: before) frames rest
      rw [memberTokens, List.flatMap_cons, List.append_assoc, List.cons_append, run?_cons rfl,
        List.cons_append, run?_cons rfl, List.cons_append, run?_cons rfl, hvalue, hmembers]
      simp [Json.memberTrees]

end

/-- **A compressed text is read as the tree of its value.** -/
theorem parse?_compress (value : Json) :
    parse? (Utf8.encode value.compress) = some value.tree := by
  have hrun := run?_valueTokens value [] []
  rw [List.append_nil] at hrun
  unfold parse?
  rw [Json.tokens?_compress, Option.bind_eq_bind, Option.bind_some, hrun]
  rfl

end JsonText

namespace Json

mutual

/-- Different values have different trees. -/
theorem eq_of_tree_eq (a b : Json) (h : tree a = tree b) :
    a = b := by
  match a, b with
  | .null, b => cases b <;> simp [tree] at h ⊢
  | .boolean x, b =>
      cases b <;> simp [tree] at h ⊢
      exact h
  | .number n, b =>
      cases b <;> simp [tree] at h ⊢
      exact Number.numeral_injective h
  | .string s, b =>
      cases b <;> simp [tree] at h ⊢
      exact pieces_injective h
  | .array items, b =>
      cases b <;> simp [tree] at h ⊢
      exact eq_of_itemTrees_eq items _ h
  | .object members, b =>
      cases b <;> simp [tree] at h ⊢
      exact eq_of_memberTrees_eq members _ h

theorem eq_of_itemTrees_eq (items others : List Json) (h : itemTrees items = itemTrees others) :
    items = others := by
  match items, others with
  | [], [] => rfl
  | [], other :: others => simp [itemTrees] at h
  | item :: items, [] => simp [itemTrees] at h
  | item :: items, other :: others =>
      obtain ⟨hitem, hitems⟩ := List.cons.inj h
      rw [eq_of_tree_eq item other hitem, eq_of_itemTrees_eq items others hitems]

theorem eq_of_memberTrees_eq (members others : List (String × Json))
    (h : memberTrees members = memberTrees others) :
    members = others := by
  match members, others with
  | [], [] => rfl
  | [], (name, value) :: others => simp [memberTrees] at h
  | (name, value) :: members, [] => simp [memberTrees] at h
  | (name, value) :: members, (name', value') :: others =>
      obtain ⟨hmember, hmembers⟩ := List.cons.inj h
      obtain ⟨hname, hvalue⟩ := Prod.mk.inj hmember
      rw [pieces_injective hname, eq_of_tree_eq value value' hvalue,
        eq_of_memberTrees_eq members others hmembers]

end

/-- **Compressed texts tell values apart.** -/
theorem compress_injective :
    Function.Injective compress := by
  intro a b h
  have ha := JsonText.parse?_compress a
  rw [h, JsonText.parse?_compress] at ha
  exact eq_of_tree_eq a b (Option.some.inj ha).symm

end Json

/-- **Fingerprints tell values apart** as far as the digest does not collide on their texts. -/
theorem Fingerprint.of_injOn
    {values : Set Json} (hdigest : Set.InjOn Sha256.digest (Fingerprint.text '' values)) :
    Set.InjOn Fingerprint.of values := by
  intro a ha b hb h
  have htext : Fingerprint.text a = Fingerprint.text b :=
    hdigest (Set.mem_image_of_mem _ ha) (Set.mem_image_of_mem _ hb)
      (congrArg Fingerprint.digest h)
  exact Json.compress_injective (Utf8.encode_injective htext)

end WalletEvents
