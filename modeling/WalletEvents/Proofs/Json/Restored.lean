import WalletEvents.Proofs.Calendar.Notation
import WalletEvents.Proofs.Json.Bounded
import WalletEvents.Proofs.Json.Rewritten

/-!
# Data that is restored from what was written

`Json.Restored` says of data and of the value that it is written as that the value
can be written, and that the reader of the data finds them again in its canonical
form.

**Records.** A record is written field by field in the order in which it is read, so
that both are compared from the first field to the last one: `ReadsBack` has one rule
for each way to ask for a field, and `restored_record` puts the record together. A
field without data is left out and read as missing.
-/

namespace WalletEvents

namespace Json

variable {α : Type}

/-- The data can be written as the value, and the reader finds them in its canonical form. -/
structure Restored (depth : Nat) (read : Json → Option α) (j : Json) (a : α) : Prop where
  writable : Writable depth j
  ne_null : j ≠ .null
  read_eq : read j.canonical = some a

section Single

variable {depth : Nat}

theorem restored_number (n : Number) :
    Restored depth number? (.number n) n where
  writable := by simp [Writable, Nested]
  ne_null := by simp
  read_eq := rfl

theorem restored_text (s : String) :
    Restored depth text? (.string s) s where
  writable := by simp [Writable, Nested]
  ne_null := by simp
  read_eq := rfl

theorem restored_boolean (b : Bool) :
    Restored depth boolean? (.boolean b) b where
  writable := by simp [Writable, Nested]
  ne_null := by simp
  read_eq := rfl

theorem restored_double (d : Double) :
    Restored depth double? (.number (.double d)) d where
  writable := by simp [Writable, Nested]
  ne_null := by simp
  read_eq := rfl

theorem restored_int64 (i : Int64) :
    Restored depth int64? (ofInt64 i) i where
  writable := by simp [Writable, Nested, ofInt64]
  ne_null := by simp [ofInt64]
  read_eq := by
    have hinteger : integer? (ofInt64 i).canonical = some i.toInt := rfl
    rw [int64?, hinteger, Option.bind_eq_bind, Option.bind_some,
      if_pos ⟨i.le_toInt, i.toInt_lt⟩, Int64.ofInt_toInt]

theorem restored_moment (m : Moment) :
    Restored depth moment? (ofMoment m) m where
  writable := by simp [Writable, Nested, ofMoment]
  ne_null := by simp [ofMoment]
  read_eq := by
    have htext : text? (ofMoment m).canonical = some (m.text .letter) := rfl
    rw [moment?, htext, Option.bind_some, Moment.read?_text]

/-- A word is restored if no other word of its type has the same name. -/
theorem restored_named
    [Named α] {a : α}
    (h : ((Named.all (α := α)).map fun a => (Named.name a, a)).lookup (Named.name a) = some a) :
    Restored depth named? (ofNamed a) a where
  writable := by simp [Writable, Nested, ofNamed]
  ne_null := by simp [ofNamed]
  read_eq := h

/-- What was kept in a field that may hold anything is restored as it is. -/
theorem restored_kept {content : Option Json} (h : Kept depth content) :
    Option.Rel (Restored depth any?) content content := by
  cases content with
  | none => exact .none
  | some v =>
      obtain ⟨hregular, hne⟩ := h v rfl
      exact .some ⟨hregular.writable, hne, congrArg some hregular.canonical_eq⟩

theorem restored_list
    {read : Json → Option α} {toJson : α → Json}
    (h : ∀ a, Restored depth read (toJson a) a) (as : List α) :
    Restored (depth + 1) (list? read) (.array (as.map toJson)) as where
  writable := by
    intro j hj
    obtain ⟨a, -, rfl⟩ := List.mem_map.mp hj
    exact (h a).writable
  ne_null := by simp
  read_eq := by
    have hitems : (canonicalItems (as.map toJson)).mapM read = some as := by
      rw [canonicalItems_eq, List.map_map, mapM_eq_some_iff, List.forall₂_map_left_iff,
        List.forall₂_same]
      exact fun a _ => (h a).read_eq
    exact hitems

/-- Data that may be missing. -/
theorem restored_map
    {read : Json → Option α} {toJson : α → Json}
    (h : ∀ a, Restored depth read (toJson a) a) (a? : Option α) :
    Option.Rel (Restored depth read) (a?.map toJson) a? := by
  cases a? with
  | none => exact .none
  | some a => exact .some (h a)

end Single

/-- The fields that are written can be written, and they are read back as the data. -/
structure ReadsBack (depth : Nat) (fields : Fields Json) (written : List (String × Option Json))
    (found : Option α) (a : α) : Prop where
  writable : ∀ field ∈ written, ∀ j ∈ field.2, Writable depth j
  found_eq : fields.byPosition = false →
    (∀ field ∈ written, fields.given.lookup field.1 = field.2.map canonical) → found = some a

namespace ReadsBack

variable {β : Type} {depth : Nat} {fields : Fields Json} {written : List (String × Option Json)}
  {name : String} {read : Json → Option α} {next : α → Option β} {b : β}

theorem nil (a : α) :
    ReadsBack depth fields [] (some a) a where
  writable := by simp
  found_eq := fun _ _ => rfl

/-- One field that is found, before the remaining ones. -/
theorem cons
    {value : Option Json} {found : Option α} {a : α}
    (hwritable : ∀ j ∈ value, Writable depth j)
    (hfound : fields.byPosition = false → fields.given.lookup name = value.map canonical →
      found = some a)
    (hrest : ReadsBack depth fields written (next a) b) :
    ReadsBack depth fields ((name, value) :: written) (found >>= next) b where
  writable := List.forall_mem_cons.mpr ⟨hwritable, hrest.writable⟩
  found_eq := by
    intro hposition hlookup
    obtain ⟨hfirst, hothers⟩ := List.forall_mem_cons.mp hlookup
    rw [hfound hposition hfirst, Option.bind_eq_bind, Option.bind_some]
    exact hrest.found_eq hposition hothers

theorem required
    {j : Json} {a : α} (h : Restored depth read j a)
    (hrest : ReadsBack depth fields written (next a) b) :
    ReadsBack depth fields ((name, some j) :: written) (fields.required? name read >>= next) b := by
  refine cons (by simpa using h.writable) (fun _ hlookup => ?_) hrest
  rw [Fields.required?, hlookup]
  exact h.read_eq

theorem default
    {j : Json} {a : α} (default : α) (h : Restored depth read j a)
    (hrest : ReadsBack depth fields written (next a) b) :
    ReadsBack depth fields ((name, some j) :: written) (fields.getD? name default read >>= next)
      b := by
  refine cons (by simpa using h.writable) (fun _ hlookup => ?_) hrest
  rw [Fields.getD?, hlookup]
  exact h.read_eq

theorem nullable?_canonical {j : Json} (h : j ≠ .null) :
    nullable? read j.canonical = (read j.canonical).map some := by
  cases j with
  | null => exact absurd rfl h
  | boolean b => rfl
  | number n => rfl
  | string s => rfl
  | array items => rfl
  | object members => rfl

theorem optional
    {value : Option Json} {a? : Option α} {next : Option α → Option β}
    (h : Option.Rel (Restored depth read) value a?)
    (hrest : ReadsBack depth fields written (next a?) b) :
    ReadsBack depth fields ((name, value) :: written) (fields.optional? name read >>= next) b := by
  cases h with
  | none =>
      refine cons (by simp) (fun hposition hlookup => ?_) hrest
      rw [Fields.optional?, hlookup, hposition]
      rfl
  | some h =>
      refine cons (by simpa using h.writable) (fun _ hlookup => ?_) hrest
      rw [Fields.optional?, hlookup]
      exact (nullable?_canonical h.ne_null).trans (congrArg (Option.map some) h.read_eq)

end ReadsBack

/-- The members of a record: the fields that are not missing. -/
def present (written : List (String × Option Json)) : List (String × Json) :=
  written.filterMap fun (name, value) => value.map (name, ·)

theorem mem_present {written : List (String × Option Json)} {member : String × Json} :
    member ∈ present written ↔ (member.1, some member.2) ∈ written := by
  obtain ⟨name, j⟩ := member
  simp only [present, List.mem_filterMap, Option.map_eq_some_iff, Prod.mk.injEq]
  constructor
  · rintro ⟨⟨_, _⟩, hfield, _, rfl, rfl, rfl⟩
    exact hfield
  · intro hfield
    exact ⟨(name, some j), hfield, j, rfl, rfl, rfl⟩

theorem map_fst_present (written : List (String × Option Json)) :
    ((present written).map Prod.fst).Sublist (written.map Prod.fst) := by
  induction written with
  | nil => exact .slnil
  | cons field rest ih =>
      obtain ⟨name, value⟩ := field
      cases value with
      | none => exact ih.cons name
      | some j => exact ih.cons_cons name

theorem lookup_present
    {written : List (String × Option Json)} (hnodup : (written.map Prod.fst).Nodup)
    {field : String × Option Json} (hfield : field ∈ written) :
    (present written).lookup field.1 = field.2 := by
  induction written with
  | nil => cases hfield
  | cons first rest ih =>
      obtain ⟨name, value⟩ := first
      obtain ⟨hname, hrest⟩ := List.nodup_cons.mp hnodup
      have hfirst : (present rest).lookup name = none := by
        refine List.lookup_eq_none_iff.mpr fun member hmember => bne_iff_ne.mpr ?_
        rintro rfl
        exact hname ((map_fst_present rest).subset (List.mem_map_of_mem hmember))
      rcases List.mem_cons.mp hfield with rfl | hmem
      · cases value with
        | none => exact hfirst
        | some j => exact List.lookup_cons_self
      · have hne : field.1 ≠ name := by
          rintro rfl
          exact hname (List.mem_map.mpr ⟨field, hmem, rfl⟩)
        cases value with
        | none => exact ih hrest hmem
        | some j =>
            have hcons : present ((name, some j) :: rest) = (name, j) :: present rest := rfl
            rw [hcons, List.lookup_cons, beq_false_of_ne hne]
            exact ih hrest hmem

/-- The fields that are found in the canonical form of a record. -/
theorem fields?_canonical_record
    {written : List (String × Option Json)} (hnodup : (written.map Prod.fst).Nodup) :
    ∃ fields, fields? (written.map Prod.fst) (record written).canonical = some fields ∧
      fields.byPosition = false ∧
        ∀ field ∈ written, fields.given.lookup field.1 = field.2.map canonical := by
  have hsub := map_fst_present written
  have hnames : (canonicalMembers (present written)).map Prod.fst =
      (present written).map Prod.fst := by
    rw [canonicalMembers_eq, List.map_map]
    rfl
  have hascending := ascending_sortMembers (canonicalMembers (present written))
  have hknown : (sortMembers (canonicalMembers (present written))).filter
      (fun member => (written.map Prod.fst).contains member.1) =
        sortMembers (canonicalMembers (present written)) := by
    refine List.filter_eq_self.mpr fun member hmember => List.contains_iff_mem.mpr ?_
    refine hsub.subset ?_
    rw [← hnames]
    exact List.mem_map_of_mem (mem_of_mem_sortMembers hmember)
  refine ⟨⟨sortMembers (canonicalMembers (present written)), false⟩, ?_, rfl, fun field hfield => ?_⟩
  · have hnode : Document.node? (record written).canonical =
        some (.object (sortMembers (canonicalMembers (present written)))) := rfl
    simp only [fields?, hnode, hknown, if_pos hascending.nodup]
  · have hcount : ((present written).map Prod.fst).count field.1 ≤ 1 :=
      List.nodup_iff_count_le_one.mp (hnodup.sublist hsub) field.1
    rw [hascending.lookup_eq, lastOf?_sortMembers, canonicalMembers_eq, lastOf?_map,
      ← lookup_eq_lastOf? hcount, lookup_present hnodup hfield]

/-- **A record is restored** as soon as its fields are read back. -/
theorem restored_record
    {depth : Nat} {written : List (String × Option Json)} {names : List String}
    {next : Fields Json → Option α} {a : α}
    (hnames : written.map Prod.fst = names) (hnodup : names.Nodup)
    (h : ∀ fields, ReadsBack depth fields written (next fields) a) :
    Restored (depth + 1) (fun d => fields? names d >>= next) (record written) a := by
  subst hnames
  obtain ⟨fields, hfields, hposition, hlookup⟩ := fields?_canonical_record hnodup
  refine ⟨⟨hnodup.sublist (map_fst_present written), fun member hmember => ?_⟩, by simp [record],
    ?_⟩
  · exact (h fields).writable _ (mem_present.mp hmember) member.2 rfl
  · rw [hfields, Option.bind_eq_bind, Option.bind_some]
    exact (h fields).found_eq hposition hlookup

end Json

end WalletEvents
