import WalletEvents.Json.Text
import WalletEvents.Proofs.Json.Members

/-!
# Canonical values

The value that a text stands for is canonical: the members of every object in it
ascend. It is also nested no deeper than the allowance of the text.
`Json.Regular` says both of a value (as a case of `Json.Nested`, which leaves open
how members are formed), and `JsonText.regular_of_value?` proves it of every value
that is read.

The readers go through the parts of a container one by one and give up when one
of them makes no sense. `mapM_eq_some_iff` turns this into a relation between the
parts of the text and those of the value.
-/

namespace WalletEvents

/-- A list is read when each of its elements is. -/
theorem mapM_eq_some_iff
    {α β : Type} {f : α → Option β} {as : List α} {bs : List β} :
    as.mapM f = some bs ↔ List.Forall₂ (fun a b => f a = some b) as bs := by
  induction as generalizing bs with
  | nil => cases bs <;> simp
  | cons a as ih =>
      rw [List.mapM_cons, Option.bind_eq_bind, Option.bind_eq_some_iff, List.forall₂_cons_left_iff]
      simp only [Option.bind_eq_bind, Option.bind_eq_some_iff, ih, Option.pure_def, Option.some.injEq]
      grind

theorem exists_of_forall₂
    {α β : Type} {R : α → β → Prop} {as : List α} {bs : List β}
    (h : List.Forall₂ R as bs) {b : β} (hb : b ∈ bs) :
    ∃ a ∈ as, R a b := by
  induction h with
  | nil => cases hb
  | @cons a b' as bs hab _ ih =>
      rcases List.mem_cons.mp hb with rfl | hb
      · exact ⟨a, List.mem_cons_self, hab⟩
      · obtain ⟨a', ha', hab'⟩ := ih hb
        exact ⟨a', List.mem_cons_of_mem _ ha', hab'⟩

namespace Json

/-- The value is nested at most `depth` containers deep, and the members of its objects are formed. -/
def Nested (Formed : List (String × Json) → Prop) : Nat → Json → Prop
  | _, .null => True
  | _, .boolean _ => True
  | _, .number _ => True
  | _, .string _ => True
  | depth + 1, .array items => ∀ item ∈ items, Nested Formed depth item
  | depth + 1, .object members => Formed members ∧ ∀ member ∈ members, Nested Formed depth member.2
  | 0, .array _ => False
  | 0, .object _ => False

/-- The members of the objects in a value ascend, and it is nested at most `depth` deep. -/
def Regular : Nat → Json → Prop := Nested Ascending

namespace Nested

variable {Formed Formed' : List (String × Json) → Prop} {depth : Nat}

theorem array_inv
    {items : List Json} (h : Nested Formed depth (.array items)) :
    ∃ depth', depth = depth' + 1 ∧ ∀ item ∈ items, Nested Formed depth' item := by
  cases depth with
  | zero => exact absurd h (by simp [Nested])
  | succ depth => exact ⟨depth, rfl, h⟩

theorem object_inv
    {members : List (String × Json)} (h : Nested Formed depth (.object members)) :
    ∃ depth', depth = depth' + 1 ∧ Formed members ∧
      ∀ member ∈ members, Nested Formed depth' member.2 := by
  cases depth with
  | zero => exact absurd h (by simp [Nested])
  | succ depth => exact ⟨depth, rfl, h⟩

theorem mono
    (hformed : ∀ members, Formed members → Formed' members) {v : Json} (h : Nested Formed depth v) :
    Nested Formed' depth v := by
  induction depth using Nat.strongRecOn generalizing v with | ind depth ih => ?_
  cases v with
  | null => simp [Nested]
  | boolean b => simp [Nested]
  | number n => simp [Nested]
  | string s => simp [Nested]
  | array items =>
      obtain ⟨depth, rfl, hitems⟩ := h.array_inv
      exact fun item hitem => ih depth (Nat.lt_succ_self depth) (hitems item hitem)
  | object members =>
      obtain ⟨depth, rfl, hmembers, hvalues⟩ := h.object_inv
      exact ⟨hformed members hmembers, fun member hmember =>
        ih depth (Nat.lt_succ_self depth) (hvalues member hmember)⟩

end Nested

end Json

namespace JsonText

open Json (Piece Regular)

/-- A member of a text and the member that it stands for. -/
def MemberOf (depth : Nat) (member : List Piece × JsonText) (named : String × Json) : Prop :=
  Piece.text? member.1 = some named.1 ∧ member.2.value? depth = some named.2

variable {depth : Nat} {v : Json}

theorem value?_array_inv
    {items : List JsonText} (h : value? depth (.array items) = some v) :
    ∃ depth' values, depth = depth' + 1 ∧ v = .array values ∧
      List.Forall₂ (fun item value => item.value? depth' = some value) items values := by
  cases depth with
  | zero => simp [value?] at h
  | succ depth =>
      rw [value?, Option.map_eq_some_iff] at h
      obtain ⟨values, hvalues, rfl⟩ := h
      exact ⟨depth, values, rfl, rfl, mapM_eq_some_iff.mp hvalues⟩

theorem value?_object_iff
    {members : List (List Piece × JsonText)} :
    value? (depth + 1) (.object members) = some v ↔
      ∃ named, List.Forall₂ (MemberOf depth) members named ∧ Json.objectOf named = v := by
  have hmember : ∀ member named, (do
      let name ← Piece.text? member.1
      let value ← value? depth member.2
      some (name, value)) = some named ↔ MemberOf depth member named := by
    rintro ⟨pieces, tree⟩ ⟨name, value⟩
    cases hname : Piece.text? pieces <;> cases hvalue : value? depth tree <;>
      simp [MemberOf, hname, hvalue]
  rw [value?, Option.map_eq_some_iff]
  constructor
  · rintro ⟨named, hnamed, hv⟩
    exact ⟨named, (mapM_eq_some_iff.mp hnamed).imp fun member named => (hmember member named).mp, hv⟩
  · rintro ⟨named, hnamed, hv⟩
    exact ⟨named, mapM_eq_some_iff.mpr (hnamed.imp fun member named =>
      (hmember member named).mpr), hv⟩

theorem value?_object_inv
    {members : List (List Piece × JsonText)} (h : value? depth (.object members) = some v) :
    ∃ depth' named, depth = depth' + 1 ∧ v = Json.objectOf named ∧
      List.Forall₂ (MemberOf depth') members named := by
  cases depth with
  | zero => simp [value?] at h
  | succ depth =>
      obtain ⟨named, hnamed, rfl⟩ := value?_object_iff.mp h
      exact ⟨depth, named, rfl, rfl, hnamed⟩

/-- **The value of a text is canonical** and nested no deeper than the text may be. -/
theorem regular_of_value?
    {t : JsonText} (h : t.value? depth = some v) :
    Regular depth v := by
  induction depth using Nat.strongRecOn generalizing t v with | ind depth ih => ?_
  cases t with
  | null =>
      obtain rfl : Json.null = v := by simpa [value?] using h
      simp [Regular, Json.Nested]
  | boolean b =>
      obtain rfl : Json.boolean b = v := by simpa [value?] using h
      simp [Regular, Json.Nested]
  | number n =>
      rw [value?, Option.map_eq_some_iff] at h
      obtain ⟨number, -, rfl⟩ := h
      simp [Regular, Json.Nested]
  | string pieces =>
      rw [value?, Option.map_eq_some_iff] at h
      obtain ⟨text, -, rfl⟩ := h
      simp [Regular, Json.Nested]
  | array items =>
      obtain ⟨depth, values, rfl, rfl, hvalues⟩ := value?_array_inv h
      intro value hvalue
      obtain ⟨item, -, hitem⟩ := exists_of_forall₂ hvalues hvalue
      exact ih depth (Nat.lt_succ_self depth) hitem
  | object members =>
      obtain ⟨depth, named, rfl, rfl, hnamed⟩ := value?_object_inv h
      refine ⟨Json.ascending_sortMembers named, fun member hmember => ?_⟩
      obtain ⟨_, -, -, hvalue⟩ := exists_of_forall₂ hnamed (Json.mem_of_mem_sortMembers hmember)
      exact ih depth (Nat.lt_succ_self depth) hvalue

end JsonText

theorem Json.regular_of_parse?
    {text : List UInt8} {v : Json} (h : Json.parse? text = some v) :
    Regular JsonText.depthLimit v := by
  obtain ⟨tree, -, hvalue⟩ := Option.bind_eq_some_iff.mp h
  exact JsonText.regular_of_value? hvalue

end WalletEvents
