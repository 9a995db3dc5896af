import WalletEvents.Proofs.Json.Compress
import WalletEvents.Proofs.Json.Paths
import WalletEvents.Proofs.Text.Digits

/-!
# What a written value is read as

A value is written with the members of its objects in any order. When its text is
read again, the members are sorted, and nothing else happens to it if

* it is not nested too deep and its objects repeat no name (`Json.Writable`), and
* its numbers are read as themselves (`Number.Rereads`). An integer always is; for a
  double this depends on the reader, which rounds more than once.

**Results.** The text of such a value is read as its canonical form
(`Writable.parse?_compress`) and repeats no name (`namesDistinct_tree`). What was
read from a text is canonical already, and so its text is read as the value itself
(`Regular.parse?_compress`).
-/

namespace WalletEvents

namespace Json

/-- The number is read again from its digits. -/
def Number.Rereads (n : Number) : Prop :=
  (Numeral.ofChars? n.text.toList).bind Numeral.value? = some n

theorem Number.rereads_iff {n : Number} :
    n.Rereads ↔ n.numeral.value? = some n := by
  rw [Rereads, ofChars?_text, Option.bind_some]

/-- **Every integer is read again from its digits.** -/
theorem Number.rereads_integer (i : Int) (fits : -2 ^ 63 ≤ i ∧ i < 2 ^ 64) :
    (Number.integer i fits).Rereads := by
  have hdigits : digitsValueUpTo (2 ^ 64) (Nat.toDigits 10 i.natAbs) = i.natAbs := by
    rw [digitsValueUpTo_of_le (by rw [digitsValue_toDigits]; omega), digitsValue_toDigits]
  have hinteger : (Number.integer i fits).numeral.toInteger? = some (.integer i fits) := by
    simp only [numeral, Numeral.toInteger?, hdigits, Option.isSome_none, Bool.or_self,
      Bool.false_eq_true, if_false, decide_eq_true_eq]
    split
    · rename_i hneg
      have hvalue : -(i.natAbs : Int) = i := by omega
      rw [dif_pos (by omega)]
      simp only [hvalue]
    · rename_i hneg
      have hvalue : (i.natAbs : Int) = i := by omega
      rw [dif_pos (by omega)]
      simp only [hvalue]
  rw [rereads_iff, Numeral.value?, hinteger]

mutual

/-- The doubles in a value. -/
def doubles : Json → List Double
  | .null => []
  | .boolean _ => []
  | .number (.integer _ _) => []
  | .number (.double d) => [d]
  | .string _ => []
  | .array items => itemDoubles items
  | .object members => memberDoubles members

/-- The doubles in the items of an array. -/
def itemDoubles : List Json → List Double
  | [] => []
  | item :: rest => doubles item ++ itemDoubles rest

/-- The doubles in the members of an object. -/
def memberDoubles : List (String × Json) → List Double
  | [] => []
  | (_, value) :: rest => doubles value ++ memberDoubles rest

end

mutual

/-- The value with the members of every object sorted. -/
def canonical : Json → Json
  | .null => .null
  | .boolean b => .boolean b
  | .number n => .number n
  | .string s => .string s
  | .array items => .array (canonicalItems items)
  | .object members => objectOf (canonicalMembers members)

/-- The items of an array in canonical form. -/
def canonicalItems : List Json → List Json
  | [] => []
  | item :: rest => canonical item :: canonicalItems rest

/-- The members of an object with canonical values, not sorted yet. -/
def canonicalMembers : List (String × Json) → List (String × Json)
  | [] => []
  | (name, value) :: rest => (name, canonical value) :: canonicalMembers rest

end

theorem canonicalItems_eq (items : List Json) :
    canonicalItems items = items.map canonical := by
  induction items with
  | nil => rfl
  | cons item rest ih => rw [canonicalItems, ih, List.map_cons]

theorem canonicalMembers_eq (members : List (String × Json)) :
    canonicalMembers members = members.map fun member => (member.1, member.2.canonical) := by
  induction members with
  | nil => rfl
  | cons member rest ih => rw [canonicalMembers, ih, List.map_cons]

/-- The objects in a value repeat no name, and it is nested at most `depth` deep. -/
def Writable : Nat → Json → Prop := Nested fun members => (members.map Prod.fst).Nodup

variable {depth : Nat} {v : Json}

theorem Regular.writable (h : Regular depth v) :
    Writable depth v :=
  h.mono fun _ => Ascending.nodup

/-- **What was read is canonical.** -/
theorem Regular.canonical_eq (h : Regular depth v) :
    v.canonical = v := by
  induction depth using Nat.strongRecOn generalizing v with | ind depth ih => ?_
  cases v with
  | null => rfl
  | boolean b => rfl
  | number n => rfl
  | string s => rfl
  | array items =>
      obtain ⟨depth, rfl, hitems⟩ := h.array_inv
      have hsame : items.map canonical = items :=
        (List.map_congr_left fun item hitem =>
          ih depth (Nat.lt_succ_self depth) (hitems item hitem)).trans (List.map_id items)
      rw [canonical, canonicalItems_eq, hsame]
  | object members =>
      obtain ⟨depth, rfl, hascending, hmembers⟩ := h.object_inv
      have hsame : (members.map fun member => (member.1, member.2.canonical)) = members :=
        (List.map_congr_left fun member hmember => by
          rw [ih depth (Nat.lt_succ_self depth) (hmembers member hmember), id_eq]).trans
          (List.map_id members)
      rw [canonical, canonicalMembers_eq, hsame, objectOf, hascending.sortMembers_eq]

mutual

/-- **A written value is read as its canonical form.** -/
theorem value?_tree
    (v : Json) {depth : Nat} (h : Writable depth v)
    (hdoubles : ∀ d ∈ v.doubles, (Number.double d).Rereads) :
    v.tree.value? depth = some v.canonical := by
  match v with
  | .null => rw [tree, JsonText.value?, canonical]
  | .boolean b => rw [tree, JsonText.value?, canonical]
  | .number n =>
      have hnumber : n.Rereads := by
        cases n with
        | integer i fits => exact Number.rereads_integer i fits
        | double d => exact hdoubles d (by simp [doubles])
      rw [tree, JsonText.value?, Number.rereads_iff.mp hnumber, Option.map_some, canonical]
  | .string s => rw [tree, JsonText.value?, text?_pieces, Option.map_some, canonical]
  | .array items =>
      obtain ⟨depth, rfl, hitems⟩ := h.array_inv
      have hread := value?_itemTrees items hitems hdoubles
      rw [tree, JsonText.value?, mapM_eq_some_iff.mpr hread, Option.map_some, canonical]
  | .object members =>
      obtain ⟨depth, rfl, -, hmembers⟩ := h.object_inv
      have hread := value?_memberTrees members hmembers hdoubles
      rw [tree, canonical]
      exact JsonText.value?_object_iff.mpr ⟨_, hread, rfl⟩

theorem value?_itemTrees
    (items : List Json) {depth : Nat} (h : ∀ item ∈ items, Writable depth item)
    (hdoubles : ∀ d ∈ itemDoubles items, (Number.double d).Rereads) :
    List.Forall₂ (fun tree value => tree.value? depth = some value) (itemTrees items)
      (canonicalItems items) := by
  match items with
  | [] => exact .nil
  | item :: rest =>
      refine .cons (value?_tree item (h item List.mem_cons_self) fun d hd => ?_)
        (value?_itemTrees rest (fun item hitem => h item (List.mem_cons_of_mem _ hitem))
          fun d hd => ?_)
      · exact hdoubles d (List.mem_append_left _ hd)
      · exact hdoubles d (List.mem_append_right _ hd)

theorem value?_memberTrees
    (members : List (String × Json)) {depth : Nat}
    (h : ∀ member ∈ members, Writable depth member.2)
    (hdoubles : ∀ d ∈ memberDoubles members, (Number.double d).Rereads) :
    List.Forall₂ (JsonText.MemberOf depth) (memberTrees members) (canonicalMembers members) := by
  match members with
  | [] => exact .nil
  | (name, value) :: rest =>
      refine .cons ⟨text?_pieces name, value?_tree value (h _ List.mem_cons_self) fun d hd => ?_⟩
        (value?_memberTrees rest (fun member hmember => h member (List.mem_cons_of_mem _ hmember))
          fun d hd => ?_)
      · exact hdoubles d (List.mem_append_left _ hd)
      · exact hdoubles d (List.mem_append_right _ hd)

end

mutual

/-- The text of a value repeats a name only if an object of the value does. -/
theorem namesDistinct_tree (v : Json) {depth : Nat} (h : Writable depth v) :
    v.tree.NamesDistinct := by
  match v with
  | .null => exact .null
  | .boolean b => exact .boolean b
  | .number n => exact .number _
  | .string s => exact .string _
  | .array items =>
      obtain ⟨depth, rfl, hitems⟩ := h.array_inv
      exact .array (namesDistinct_itemTrees items hitems)
  | .object members =>
      obtain ⟨depth, rfl, hnodup, hmembers⟩ := h.object_inv
      obtain ⟨hnames, hvalues⟩ := namesDistinct_memberTrees members hmembers
      refine .object ?_ hvalues
      rw [hnames]
      exact hnodup.map (Option.some_injective _)

theorem namesDistinct_itemTrees
    (items : List Json) {depth : Nat} (h : ∀ item ∈ items, Writable depth item) :
    ∀ tree ∈ itemTrees items, tree.NamesDistinct := by
  match items with
  | [] => simp [itemTrees]
  | item :: rest =>
      intro tree htree
      rcases List.mem_cons.mp htree with rfl | hrest
      · exact namesDistinct_tree item (h item List.mem_cons_self)
      · exact namesDistinct_itemTrees rest (fun item hitem => h item (List.mem_cons_of_mem _ hitem))
          tree hrest

theorem namesDistinct_memberTrees
    (members : List (String × Json)) {depth : Nat}
    (h : ∀ member ∈ members, Writable depth member.2) :
    (memberTrees members).map (fun member => Piece.text? member.1) =
        (members.map Prod.fst).map some ∧
      ∀ member ∈ memberTrees members, member.2.NamesDistinct := by
  match members with
  | [] => simp [memberTrees]
  | (name, value) :: rest =>
      obtain ⟨hnames, hvalues⟩ := namesDistinct_memberTrees rest
        fun member hmember => h member (List.mem_cons_of_mem _ hmember)
      refine ⟨?_, fun member hmember => ?_⟩
      · rw [memberTrees, List.map_cons, hnames, text?_pieces]
        rfl
      · rcases List.mem_cons.mp hmember with rfl | hrest
        · exact namesDistinct_tree value (h _ List.mem_cons_self)
        · exact hvalues member hrest

end

/-- **The text of a value is read as its canonical form.** -/
theorem Writable.parse?_compress
    (h : Writable JsonText.depthLimit v) (hdoubles : ∀ d ∈ v.doubles, (Number.double d).Rereads) :
    parse? (Utf8.encode v.compress) = some v.canonical := by
  rw [parse?, JsonText.parse?_compress]
  exact value?_tree v h hdoubles

theorem Regular.parse?_compress
    (h : Regular JsonText.depthLimit v) (hdoubles : ∀ d ∈ v.doubles, (Number.double d).Rereads) :
    parse? (Utf8.encode v.compress) = some v := by
  rw [h.writable.parse?_compress hdoubles, h.canonical_eq]

end Json

end WalletEvents
