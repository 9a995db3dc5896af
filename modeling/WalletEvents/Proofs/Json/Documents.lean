import WalletEvents.Payment.Field
import WalletEvents.Proofs.Json.Canonical

/-!
# Documents that are read alike

The same readers look into values and into unread texts. This module says when
whatever is found in one document is found in another one as well: when the nodes
of the two are related all the way down. `Simulates R` states it of a relation `R`
of documents, node by node.

**Objects.** The members of two objects need not agree. A reader looks for the
members of certain names and gives up when such a name comes twice, so what counts
is the member of each name that comes once (`MembersRel`).

**Results.** Each reader finds in the second document what it finds in the first
one (`Simulates.text?`, `Simulates.list?`, and so on). Fields are found together,
so that a record is followed field by field, with `FoundIn.bind`.
-/

namespace WalletEvents

/-- What the one search finds, the other one finds as well. -/
def FoundIn {α : Type} (x y : Option α) : Prop := ∀ a, x = some a → y = some a

namespace FoundIn

variable {α β : Type} {x y : Option α}

theorem refl (x : Option α) :
    FoundIn x x :=
  fun _ h => h

theorem bind
    {f g : α → Option β} (h : FoundIn x y) (hnext : ∀ a, FoundIn (f a) (g a)) :
    FoundIn (x >>= f) (y >>= g) := by
  intro b hb
  obtain ⟨a, ha, hfa⟩ := Option.bind_eq_some_iff.mp hb
  exact Option.bind_eq_some_iff.mpr ⟨a, h a ha, hnext a b hfa⟩

theorem map (h : FoundIn x y) (f : α → β) :
    FoundIn (x.map f) (y.map f) := by
  intro b hb
  obtain ⟨a, ha, rfl⟩ := Option.map_eq_some_iff.mp hb
  rw [h a ha, Option.map_some]

end FoundIn

namespace Json

variable {α δ ε : Type}

/--
The members of the one object beside those of the other, whose names differ. A name that comes once is
found in both or in neither, and an object of one member goes with an object of one member.
-/
structure MembersRel (R : δ → ε → Prop) (members : List (String × δ))
    (others : List (String × ε)) : Prop where
  nodup : (others.map Prod.fst).Nodup
  lookup : ∀ name, (members.map Prod.fst).count name ≤ 1 →
    Option.Rel R (members.lookup name) (others.lookup name)
  single : ∀ name d, members = [(name, d)] → ∃ e, others = [(name, e)] ∧ R d e

/-- Members of the same names, one beside the other. -/
def SameNames (R : δ → ε → Prop) (members : List (String × δ)) (others : List (String × ε)) : Prop :=
  List.Forall₂ (fun a b => a.1 = b.1 ∧ R a.2 b.2) members others

namespace SameNames

variable {R : δ → ε → Prop} {members : List (String × δ)} {others : List (String × ε)}

theorem map_fst (h : SameNames R members others) :
    members.map Prod.fst = others.map Prod.fst := by
  induction h with
  | nil => rfl
  | cons hab _ ih => rw [List.map_cons, List.map_cons, ih, hab.1]

theorem flip (h : SameNames R members others) :
    SameNames (fun e d => R d e) others members :=
  List.Forall₂.flip (List.Forall₂.imp (fun _ _ hab => ⟨hab.1.symm, hab.2⟩) h)

/-- Members beside what is left of the other ones when those are sorted. -/
theorem sorted (h : SameNames R members others) :
    MembersRel R members (sortMembers others) where
  nodup := (ascending_sortMembers others).nodup
  lookup := by
    intro name hcount
    rw [lookup_eq_lastOf? hcount, (ascending_sortMembers others).lookup_eq, lastOf?_sortMembers]
    exact rel_lastOf? h name
  single := by
    rintro name d rfl
    cases h with
    | @cons _ other _ rest hab hrest =>
        cases hrest
        obtain ⟨_, e⟩ := other
        obtain ⟨rfl, hde⟩ := hab
        exact ⟨e, (ascending_sortMembers _).eq_of_lastOf?_eq (List.pairwise_singleton _ _)
          fun name => lastOf?_sortMembers name _, hde⟩

/-- Sorted members beside the ones they come from, if no name was repeated. -/
theorem of_sorted
    (h : SameNames R members others) (hnodup : (members.map Prod.fst).Nodup) :
    MembersRel (fun e d => R d e) (sortMembers others) members where
  nodup := hnodup
  lookup := by
    intro name _
    rw [(ascending_sortMembers others).lookup_eq, lastOf?_sortMembers,
      lookup_eq_lastOf? (List.nodup_iff_count_le_one.mp hnodup name)]
    exact rel_lastOf? (R := fun e d => R d e) h.flip name
  single := by
    intro name e hsingle
    have hperm := sortMembers_perm (h.map_fst ▸ hnodup)
    rw [hsingle, List.singleton_perm] at hperm
    subst hperm
    cases h with
    | @cons member _ rest _ hab hrest =>
        cases hrest
        obtain ⟨_, d⟩ := member
        obtain ⟨rfl, hde⟩ := hab
        exact ⟨d, rfl, hde⟩

end SameNames

/-- The members that a reader asks for, found among all members. -/
theorem lookup_filter_of_mem
    {names : List String} {name : String} (h : name ∈ names) (members : List (String × δ)) :
    (members.filter fun member => names.contains member.1).lookup name = members.lookup name := by
  induction members with
  | nil => rfl
  | cons member rest ih =>
      obtain ⟨other, d⟩ := member
      by_cases hname : name = other
      · subst hname
        rw [List.filter_cons_of_pos (by simpa using h), List.lookup_cons_self,
          List.lookup_cons_self]
      · have hbeq : (name == other) = false := beq_false_of_ne hname
        by_cases hother : other ∈ names
        · rw [List.filter_cons_of_pos (by simpa using hother), List.lookup_cons, List.lookup_cons,
            hbeq]
          exact ih
        · rw [List.filter_cons_of_neg (by simpa using hother), List.lookup_cons, hbeq]
          exact ih

theorem lookup_filter_of_not_mem
    {names : List String} {name : String} (h : name ∉ names) (members : List (String × δ)) :
    (members.filter fun member => names.contains member.1).lookup name = none := by
  rw [List.lookup_eq_none_iff]
  intro member hmember
  have hknown : member.1 ∈ names := by simpa using List.of_mem_filter hmember
  have hne : name ≠ member.1 := by
    rintro rfl
    exact h hknown
  simpa using hne

theorem count_known
    {names : List String} {name : String} (h : name ∈ names) (members : List (String × δ)) :
    ((members.filter fun member => names.contains member.1).map Prod.fst).count name =
      (members.map Prod.fst).count name := by
  have hfilter : (members.filter fun member => names.contains member.1).map Prod.fst =
      (members.map Prod.fst).filter names.contains := by
    rw [List.filter_map]
    rfl
  rw [hfilter, List.count_filter (by simpa using h)]

theorem rel_lookup_zip
    {R : δ → ε → Prop} {items : List δ} {others : List ε} (h : List.Forall₂ R items others)
    (names : List String) (name : String) :
    Option.Rel R ((names.zip items).lookup name) ((names.zip others).lookup name) := by
  induction h generalizing names with
  | nil =>
      rw [List.zip_nil_right, List.zip_nil_right]
      exact .none
  | @cons a b items others hab _ ih =>
      cases names with
      | nil => exact .none
      | cons first names =>
          rw [List.zip_cons_cons, List.zip_cons_cons, List.lookup_cons, List.lookup_cons]
          cases name == first with
          | true => exact .some hab
          | false => exact ih names

/-- Two nodes of the same kind, with related documents below. -/
inductive NodeRel (R : δ → ε → Prop) : Node δ → Node ε → Prop where
  | null : NodeRel R .null .null
  | boolean (b : Bool) : NodeRel R (.boolean b) (.boolean b)
  | number (n : Number) : NodeRel R (.number n) (.number n)
  | string (s : String) : NodeRel R (.string s) (.string s)
  | array {items : List δ} {others : List ε} (h : List.Forall₂ R items others) :
      NodeRel R (.array items) (.array others)
  | object {members : List (String × δ)} {others : List (String × ε)}
      (h : MembersRel R members others) : NodeRel R (.object members) (.object others)

/-- What the one reader finds in a document, the other one finds in each related document. -/
def Follows (R : δ → ε → Prop) (read : δ → Option α) (read' : ε → Option α) : Prop :=
  ∀ {d e}, R d e → FoundIn (read d) (read' e)

/-- Fields that are found together, and both by position or both by name. -/
structure FieldsRel (R : δ → ε → Prop) (fields : Fields δ) (others : Fields ε) : Prop where
  byPosition : fields.byPosition = others.byPosition
  lookup : ∀ name, Option.Rel R (fields.given.lookup name) (others.given.lookup name)

/-- Related documents have related nodes, and the value of the first one is that of the second. -/
structure Simulates [Document δ] [Document ε] (R : δ → ε → Prop) : Prop where
  node : ∀ {d e}, R d e →
    ∃ a b, Document.node? d = some a ∧ Document.node? e = some b ∧ NodeRel R a b
  value : ∀ {d e}, R d e → FoundIn (Document.value? d) (Document.value? e)

section Readers

variable [Document δ] [Document ε]

namespace Simulates

variable {R : δ → ε → Prop} (hR : Simulates R)

include hR

theorem any? :
    Follows R (α := Json) Json.any? Json.any? :=
  hR.value

theorem boolean? :
    Follows R Json.boolean? Json.boolean? := by
  intro d e h
  obtain ⟨a, b, ha, hb, hab⟩ := hR.node h
  cases hab <;> simp [Json.boolean?, ha, hb, FoundIn]

theorem number? :
    Follows R Json.number? Json.number? := by
  intro d e h
  obtain ⟨a, b, ha, hb, hab⟩ := hR.node h
  cases hab <;> simp [Json.number?, ha, hb, FoundIn]

theorem text? :
    Follows R Json.text? Json.text? := by
  intro d e h
  obtain ⟨a, b, ha, hb, hab⟩ := hR.node h
  cases hab <;> simp [Json.text?, ha, hb, FoundIn]

theorem integer? :
    Follows R Json.integer? Json.integer? := by
  intro d e h i hi
  unfold Json.integer? at hi ⊢
  cases hnumber : Json.number? d with
  | none => simp [hnumber] at hi
  | some n => rwa [hR.number? h n hnumber, ← hnumber]

theorem int64? :
    Follows R Json.int64? Json.int64? := by
  intro d e h
  exact (hR.integer? h).bind fun _ => .refl _

theorem double? :
    Follows R Json.double? Json.double? := by
  intro d e h
  exact (hR.number? h).map _

theorem moment? :
    Follows R Json.moment? Json.moment? := by
  intro d e h
  exact (hR.text? h).bind fun _ => .refl _

variable {read : δ → Option α} {read' : ε → Option α}

theorem nullable? (hread : Follows R read read') :
    Follows R (Json.nullable? read) (Json.nullable? read') := by
  intro d e h
  obtain ⟨a, b, ha, hb, hab⟩ := hR.node h
  have hsome := (hread h).map some
  cases hab <;> simp only [Json.nullable?, ha, hb]
  case null => exact .refl _
  all_goals exact hsome

theorem list? (hread : Follows R read read') :
    Follows R (Json.list? read) (Json.list? read') := by
  intro d e h
  obtain ⟨a, b, ha, hb, hab⟩ := hR.node h
  cases hab <;> simp only [Json.list?, ha, hb]
  case array items others hitems =>
    clear ha hb
    induction hitems with
    | nil => exact .refl _
    | cons hab _ ih =>
        rw [List.mapM_cons, List.mapM_cons]
        exact (hread hab).bind fun _ => ih.bind fun _ => .refl _
  all_goals exact .refl _

theorem choice? (named : List (String × α)) :
    Follows R (Json.choice? named) (Json.choice? named) := by
  intro d e h c hc
  obtain ⟨a, b, ha, hb, hab⟩ := hR.node h
  cases hab <;> simp only [Json.choice?, ha, hb] at hc ⊢
  case string => exact hc
  case object members others hmembers =>
    match members with
    | [] => simp at hc
    | [(name, value)] =>
        obtain ⟨other, rfl, hvalue⟩ := hmembers.single name value rfl
        obtain ⟨a, b, ha, hb, hab⟩ := hR.node hvalue
        cases hab <;> simp_all
    | _ :: _ :: _ => simp at hc
  all_goals exact absurd hc (by simp)

theorem named? [Named α] :
    Follows R (Json.named? (α := α)) Json.named? :=
  hR.choice? _

/-- **Fields are found together.** -/
theorem fields?
    {names : List String} {d : δ} {e : ε} (h : R d e) {fields : Fields δ}
    (hfields : Json.fields? names d = some fields) :
    ∃ others, Json.fields? names e = some others ∧ FieldsRel R fields others := by
  obtain ⟨a, b, ha, hb, hab⟩ := hR.node h
  cases hab <;> simp only [Json.fields?, ha, hb] at hfields ⊢
  case array items others hitems =>
    rw [← hitems.length_eq]
    split at hfields
    · rename_i hlength
      obtain rfl := Option.some.inj hfields
      rw [if_pos hlength]
      exact ⟨_, rfl, rfl, rel_lookup_zip hitems names⟩
    · simp at hfields
  case object members others hmembers =>
    split at hfields
    · rename_i hnodup
      obtain rfl := Option.some.inj hfields
      have hothers := hmembers.nodup.sublist
        ((List.filter_sublist (p := fun member => names.contains member.1)).map Prod.fst)
      rw [if_pos hothers]
      refine ⟨_, rfl, rfl, fun name => ?_⟩
      by_cases hname : name ∈ names
      · rw [lookup_filter_of_mem hname, lookup_filter_of_mem hname]
        refine hmembers.lookup name ?_
        rw [← count_known hname]
        exact List.nodup_iff_count_le_one.mp hnodup name
      · rw [lookup_filter_of_not_mem hname, lookup_filter_of_not_mem hname]
        exact .none
    · simp at hfields
  all_goals exact absurd hfields (by simp)

/-- A record is followed as soon as what is made of its fields is. -/
theorem record
    {names : List String} {next : Fields δ → Option α} {next' : Fields ε → Option α}
    (hnext : ∀ fields others, FieldsRel R fields others → FoundIn (next fields) (next' others)) :
    Follows R (fun d => Json.fields? names d >>= next) (fun e => Json.fields? names e >>= next') := by
  intro d e h a ha
  obtain ⟨fields, hfields, hmade⟩ := Option.bind_eq_some_iff.mp ha
  obtain ⟨others, hothers, hrel⟩ := hR.fields? h hfields
  exact Option.bind_eq_some_iff.mpr ⟨others, hothers, hnext fields others hrel a hmade⟩

end Simulates

end Readers

namespace FieldsRel

variable {R : δ → ε → Prop} {fields : Fields δ} {others : Fields ε}
  (h : FieldsRel R fields others) {read : δ → Option α} {read' : ε → Option α}

include h

/-- A field is given in both documents or in neither. -/
theorem lookup_cases (name : String) :
    (fields.given.lookup name = none ∧ others.given.lookup name = none) ∨
      ∃ d e, fields.given.lookup name = some d ∧ others.given.lookup name = some e ∧ R d e := by
  have hrel := h.lookup name
  generalize fields.given.lookup name = x at hrel ⊢
  generalize others.given.lookup name = y at hrel ⊢
  cases hrel with
  | none => exact .inl ⟨rfl, rfl⟩
  | some hde => exact .inr ⟨_, _, rfl, rfl, hde⟩

theorem required? (name : String) (hread : Follows R read read') :
    FoundIn (fields.required? name read) (others.required? name read') := by
  unfold Fields.required?
  rcases h.lookup_cases name with ⟨hd, he⟩ | ⟨d, e, hd, he, hde⟩
  · rw [hd, he]
    exact .refl _
  · rw [hd, he]
    exact hread hde

theorem optional?
    [Document δ] [Document ε] (hR : Simulates R) (name : String) (hread : Follows R read read') :
    FoundIn (fields.optional? name read) (others.optional? name read') := by
  unfold Fields.optional?
  rcases h.lookup_cases name with ⟨hd, he⟩ | ⟨d, e, hd, he, hde⟩
  · rw [hd, he, h.byPosition]
    exact .refl _
  · rw [hd, he]
    exact hR.nullable? hread hde

theorem getD? (name : String) (default : α) (hread : Follows R read read') :
    FoundIn (fields.getD? name default read) (others.getD? name default read') := by
  unfold Fields.getD?
  rcases h.lookup_cases name with ⟨hd, he⟩ | ⟨d, e, hd, he, hde⟩
  · rw [hd, he]
    exact .refl _
  · rw [hd, he]
    exact hread hde

end FieldsRel

end Json

end WalletEvents
