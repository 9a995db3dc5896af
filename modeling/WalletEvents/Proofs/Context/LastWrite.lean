import Mathlib.Data.List.GetD
import Mathlib.Logic.Relation
import WalletEvents.Context

/-!
# The last write under a name

Handles of typed stores are cloned and made anew, and values are put into the stores and
removed from them through any handles. What a handle finds is decided by the history of
these operations alone, without a look at the stores.

**Histories.** A history lists the operations, the latest one first. It begins with one
handle, and the handles have the numbers 0, 1, 2, … in the order in which they are made.
The types of the values are arbitrary, and so are the values.

**Families.** A handle and its clones are of one family, and so are their clones. A handle
that is made anew begins a family of its own.

**Results.**

* `StoreHandles.storeOf_eq_iff`: the families are the groups of handles with one store.
* `StoreHandles.item?_eq_some_iff`: in a store is what was last written under each name.
* `StoreHandles.last_write`: what the operations of a handle find and report.
-/

namespace WalletEvents

variable {τ : Type} {V : τ → Type}

namespace TypedStore

theorem lookup_cons (items : List (String × TypedValue V)) (first name : String)
    (item : TypedValue V) :
    List.lookup name ((first, item) :: items) =
      if first = name then some item else items.lookup name := by
  rw [List.lookup_cons]
  by_cases hname : first = name
  · simp [hname]
  · simp [hname, beq_false_of_ne (Ne.symm hname)]

theorem lookup_erase (c : TypedStore V) (erased name : String) :
    (c.erase erased).items.lookup name = if erased = name then none else c.items.lookup name := by
  rw [erase]
  induction c.items with
  | nil => simp
  | cons item rest ih =>
      obtain ⟨first, value⟩ := item
      rw [lookup_cons]
      by_cases hdropped : first = erased
      · rw [List.filter_cons_of_neg (by simp [hdropped]), ih, hdropped]
        by_cases hname : erased = name <;> simp [hname]
      · rw [List.filter_cons_of_pos (by simp [hdropped]), lookup_cons, ih]
        by_cases hname : first = name
        · have hother : erased ≠ name := fun h => hdropped (hname.trans h.symm)
          rw [if_pos hname, if_pos hname, if_neg hother]
        · rw [if_neg hname, if_neg hname]

theorem lookup_insert (c : TypedStore V) (written name : String) (item : TypedValue V) :
    (c.insert written item).items.lookup name =
      if written = name then some item else c.items.lookup name := by
  rw [insert, lookup_cons, lookup_erase]
  by_cases hname : written = name <;> simp [hname]

theorem get?_eq_some_iff [DecidableEq τ] {c : TypedStore V} {type : τ} {name : String}
    {value : V type} :
    c.get? type name = some value ↔ c.items.lookup name = some ⟨type, value⟩ := by
  rw [get?]
  cases c.items.lookup name with
  | none => simp
  | some item =>
      obtain ⟨other, found⟩ := item
      by_cases htype : other = type
      · subst htype
        simp
      · simp [htype]

end TypedStore

/-- An operation on the handle with a number. -/
inductive HandleOp (V : τ → Type) where
  | insert (handle : Nat) (name : String) (item : TypedValue V)
  | get (handle : Nat) (type : τ) (name : String)
  | contains (handle : Nat) (name : String)
  | remove (handle : Nat) (name : String)
  | clone (handle : Nat)
  | new

namespace HandleOp

/-- The handle that the operation is done with. -/
def handle? : HandleOp V → Option Nat
  | .insert handle _ _ => some handle
  | .get handle _ _ => some handle
  | .contains handle _ => some handle
  | .remove handle _ => some handle
  | .clone handle => some handle
  | .new => none

/-- The operation makes a handle. -/
def creates : HandleOp V → Bool
  | .clone _ => true
  | .new => true
  | _ => false

/-- The operation puts a value under the name or removes it, through one of these handles. -/
def Writes (family : Nat → Prop) (name : String) : HandleOp V → Prop
  | .insert handle written _ => family handle ∧ written = name
  | .remove handle removed => family handle ∧ removed = name
  | _ => False

end HandleOp

/-- The handles after an operation. -/
def StoreHandles.perform (h : StoreHandles V) : HandleOp V → StoreHandles V
  | .insert handle name item => (h.insert handle name item).2
  | .get _ _ _ => h
  | .contains _ _ => h
  | .remove handle name => (h.remove handle name).2
  | .clone handle => h.clone handle
  | .new => h.new

/-- The handles after a history. -/
def StoreHandles.after : List (HandleOp V) → StoreHandles V
  | [] => .single
  | op :: earlier => (after earlier).perform op

/-- How many handles there are after a history. -/
def handleCount (history : List (HandleOp V)) : Nat := 1 + history.countP HandleOp.creates

/-- Each operation is done with a handle that there is at the time. -/
def IsPossible : List (HandleOp V) → Prop
  | [] => True
  | op :: earlier => IsPossible earlier ∧ ∀ handle ∈ op.handle?, handle < handleCount earlier

/-- The second handle was made as a clone of the first one. -/
def IsClone (history : List (HandleOp V)) (handle clone : Nat) : Prop :=
  ∃ later earlier, history = later ++ .clone handle :: earlier ∧ clone = handleCount earlier

/-- The handles come from one handle by cloning. -/
def SameFamily (history : List (HandleOp V)) : Nat → Nat → Prop :=
  Relation.EqvGen (IsClone history)

/-- The item was put under the name through one of these handles, and since then nothing was put
under the name or removed from it through them. -/
def IsLatest (family : Nat → Prop) (history : List (HandleOp V)) (name : String)
    (item : TypedValue V) : Prop :=
  ∃ later handle earlier, history = later ++ .insert handle name item :: earlier ∧
    family handle ∧ ∀ op ∈ later, ¬ op.Writes family name

theorem handleCount_cons (op : HandleOp V) (earlier : List (HandleOp V)) :
    handleCount (op :: earlier) = handleCount earlier + if op.creates then 1 else 0 := by
  rw [handleCount, handleCount, List.countP_cons, Nat.add_assoc]

/-- A handle that there is after an operation was there before, unless it is a new one. -/
theorem lt_or_eq_of_lt_handleCount {op : HandleOp V} {earlier : List (HandleOp V)} {handle : Nat}
    (h : handle < handleCount (op :: earlier)) :
    handle < handleCount earlier ∨ (op.creates = true ∧ handle = handleCount earlier) := by
  rw [handleCount_cons] at h
  cases hcreates : op.creates with
  | false => exact .inl (by simpa [hcreates] using h)
  | true =>
      rw [hcreates] at h
      exact (Nat.lt_succ_iff_lt_or_eq.mp h).imp_right fun heq => ⟨rfl, heq⟩

theorem isClone_cons {op : HandleOp V} {earlier : List (HandleOp V)} {handle clone : Nat} :
    IsClone (op :: earlier) handle clone ↔
      (op = .clone handle ∧ clone = handleCount earlier) ∨ IsClone earlier handle clone := by
  constructor
  · rintro ⟨later, before, hhistory, rfl⟩
    cases later with
    | nil =>
        obtain ⟨rfl, rfl⟩ := List.cons.inj hhistory
        exact .inl ⟨rfl, rfl⟩
    | cons last later =>
        obtain ⟨rfl, rfl⟩ := List.cons.inj hhistory
        exact .inr ⟨later, before, rfl, rfl⟩
  · rintro (⟨rfl, rfl⟩ | ⟨later, before, rfl, rfl⟩)
    · exact ⟨[], earlier, rfl, rfl⟩
    · exact ⟨op :: later, before, rfl, rfl⟩

theorem SameFamily.cons {earlier : List (HandleOp V)} {handle other : Nat}
    (h : SameFamily earlier handle other) (op : HandleOp V) :
    SameFamily (op :: earlier) handle other :=
  h.mono fun _ _ hclone => isClone_cons.mpr (.inr hclone)

theorem isLatest_cons {family : Nat → Prop} {op : HandleOp V} {earlier : List (HandleOp V)}
    {name : String} {item : TypedValue V} :
    IsLatest family (op :: earlier) name item ↔
      (∃ handle, op = .insert handle name item ∧ family handle) ∨
      (¬ op.Writes family name ∧ IsLatest family earlier name item) := by
  constructor
  · rintro ⟨later, handle, before, hhistory, hfamily, hlater⟩
    cases later with
    | nil =>
        obtain ⟨rfl, rfl⟩ := List.cons.inj hhistory
        exact .inl ⟨handle, rfl, hfamily⟩
    | cons last later =>
        obtain ⟨rfl, rfl⟩ := List.cons.inj hhistory
        obtain ⟨hlast, hlater⟩ := List.forall_mem_cons.mp hlater
        exact .inr ⟨hlast, later, handle, before, rfl, hfamily, hlater⟩
  · rintro (⟨handle, rfl, hfamily⟩ | ⟨hop, later, handle, before, rfl, hfamily, hlater⟩)
    · exact ⟨[], handle, earlier, rfl, hfamily, by simp⟩
    · exact ⟨op :: later, handle, before, rfl, hfamily, List.forall_mem_cons.mpr ⟨hop, hlater⟩⟩

theorem not_isLatest_nil {family : Nat → Prop} {name : String} {item : TypedValue V} :
    ¬ IsLatest family [] name item := by
  rintro ⟨later, handle, earlier, hhistory, -⟩
  simp at hhistory

/-- Only the handles count that there are. -/
theorem isLatest_congr {history : List (HandleOp V)} (hpossible : IsPossible history)
    {family family' : Nat → Prop}
    (hfamily : ∀ handle < handleCount history, family handle ↔ family' handle)
    {name : String} {item : TypedValue V} :
    IsLatest family history name item ↔ IsLatest family' history name item := by
  induction history with
  | nil => simp [not_isLatest_nil]
  | cons op earlier ih =>
      obtain ⟨hearlier, hop⟩ := hpossible
      have hle : handleCount earlier ≤ handleCount (op :: earlier) := by
        simp [handleCount, List.countP_cons]
      have hhandles : ∀ handle ∈ op.handle?, family handle ↔ family' handle :=
        fun handle hhandle => hfamily handle (Nat.lt_of_lt_of_le (hop handle hhandle) hle)
      have hwrites : op.Writes family name ↔ op.Writes family' name := by
        cases op with
        | insert handle written value => exact and_congr_left' (hhandles handle rfl)
        | remove handle removed => exact and_congr_left' (hhandles handle rfl)
        | get | contains | clone | new => rfl
      rw [isLatest_cons, isLatest_cons, hwrites,
        ih hearlier fun handle hlt => hfamily handle (Nat.lt_of_lt_of_le hlt hle)]
      refine or_congr_left (exists_congr fun handle => and_congr_right fun hinsert => ?_)
      exact hhandles handle (by rw [hinsert]; rfl)

namespace StoreHandles

variable {history : List (HandleOp V)}

/-- What is under a name in the store with a number. -/
def item? (h : StoreHandles V) (place : Nat) (name : String) : Option (TypedValue V) :=
  (h.stores.getD place .empty).items.lookup name

theorem getD_append_singleton {α : Type} (l : List α) (last fallback : α) (place : Nat) :
    (l ++ [last]).getD place fallback =
      if place = l.length then last else l.getD place fallback := by
  rcases Nat.lt_trichotomy place l.length with hlt | rfl | hgt
  · rw [List.getD_append l [last] fallback place hlt, if_neg (Nat.ne_of_lt hlt)]
  · simp
  · rw [if_neg (Nat.ne_of_gt hgt), List.getD_eq_default l fallback (Nat.le_of_lt hgt),
      List.getD_eq_default _ fallback (by simpa using Nat.succ_le_of_lt hgt)]

theorem storeOf_clone (h : StoreHandles V) (cloned handle : Nat) :
    (h.clone cloned).storeOf handle =
      if handle = h.handles.length then h.storeOf cloned else h.storeOf handle :=
  getD_append_singleton _ _ _ _

theorem storeOf_new (h : StoreHandles V) (handle : Nat) :
    h.new.storeOf handle =
      if handle = h.handles.length then h.stores.length else h.storeOf handle :=
  getD_append_singleton _ _ _ _

theorem item?_new (h : StoreHandles V) (place : Nat) (name : String) :
    h.new.item? place name = h.item? place name := by
  rw [item?, new, getD_append_singleton]
  by_cases hlast : place = h.stores.length
  · simp [item?, hlast, TypedStore.empty]
  · rw [if_neg hlast, item?]

@[simp] theorem storeOf_change (h : StoreHandles V) (changed handle : Nat)
    (f : TypedStore V → TypedStore V) : (h.change changed f).storeOf handle = h.storeOf handle :=
  rfl

/-- A store is changed by what changes one of its names. -/
theorem item?_change (h : StoreHandles V) {handle place : Nat} {written name : String}
    {f : TypedStore V → TypedStore V} {found : Option (TypedValue V)}
    (hplace : h.storeOf handle < h.stores.length)
    (hf : ∀ c : TypedStore V, (f c).items.lookup name =
      if written = name then found else c.items.lookup name) :
    (h.change handle f).item? place name =
      if h.storeOf handle = place ∧ written = name then found else h.item? place name := by
  rw [item?, change, List.getD_eq_getElem?_getD, List.getElem?_modify]
  by_cases hsame : h.storeOf handle = place
  · subst hsame
    simp [hf, item?, List.getD_eq_getElem?_getD, List.getElem?_eq_getElem hplace]
  · simp [hsame, item?, List.getD_eq_getElem?_getD]

theorem length_handles_perform (h : StoreHandles V) (op : HandleOp V) :
    (h.perform op).handles.length = h.handles.length + if op.creates then 1 else 0 := by
  cases op with
  | clone | new => simp [perform, clone, new, HandleOp.creates]
  | insert | get | contains | remove => rfl

/-- An operation leaves the handles where they are. -/
theorem storeOf_perform (h : StoreHandles V) (op : HandleOp V) {handle : Nat}
    (hhandle : handle < h.handles.length) :
    (h.perform op).storeOf handle = h.storeOf handle := by
  cases op with
  | clone cloned => exact (storeOf_clone h cloned handle).trans (if_neg (Nat.ne_of_lt hhandle))
  | new => exact (storeOf_new h handle).trans (if_neg (Nat.ne_of_lt hhandle))
  | insert | get | contains | remove => rfl

theorem length_handles_after (history : List (HandleOp V)) :
    (after history).handles.length = handleCount history := by
  induction history with
  | nil => rfl
  | cons op earlier ih =>
      rw [after, length_handles_perform, ih, handleCount_cons]

/-- A handle that there is already keeps its store. -/
theorem storeOf_after_cons (op : HandleOp V) {earlier : List (HandleOp V)} {handle : Nat}
    (hhandle : handle < handleCount earlier) :
    (after (op :: earlier)).storeOf handle = (after earlier).storeOf handle :=
  storeOf_perform _ op (by rwa [length_handles_after])

/-- A handle that has just been cloned has the store of the other one. -/
theorem storeOf_after_clone (cloned : Nat) (earlier : List (HandleOp V)) :
    (after (.clone cloned :: earlier)).storeOf (handleCount earlier) =
      (after earlier).storeOf cloned := by
  rw [after, perform, storeOf_clone, length_handles_after, if_pos rfl]

/-- A handle that has just been made anew has the last store. -/
theorem storeOf_after_new (earlier : List (HandleOp V)) :
    (after (.new :: earlier)).storeOf (handleCount earlier) = (after earlier).stores.length := by
  rw [after, perform, storeOf_new, length_handles_after, if_pos rfl]

/-- Every handle has a store. -/
theorem storeOf_lt (hpossible : IsPossible history) {handle : Nat}
    (hhandle : handle < handleCount history) :
    (after history).storeOf handle < (after history).stores.length := by
  induction history generalizing handle with
  | nil =>
      obtain rfl : handle = 0 := Nat.lt_one_iff.mp hhandle
      exact Nat.zero_lt_one
  | cons op earlier ih =>
      obtain ⟨hearlier, hop⟩ := hpossible
      have hstores : (after earlier).stores.length ≤ (after (op :: earlier)).stores.length := by
        cases op <;> simp [after, perform, insert, remove, change, clone, new]
      rcases lt_or_eq_of_lt_handleCount hhandle with hold | ⟨hcreates, rfl⟩
      · rw [storeOf_after_cons op hold]
        exact Nat.lt_of_lt_of_le (ih hearlier hold) hstores
      · cases op with
        | clone cloned =>
            rw [storeOf_after_clone]
            exact ih hearlier (hop cloned rfl)
        | new =>
            rw [storeOf_after_new]
            simp [after, perform, new]
        | insert | get | contains | remove => cases hcreates

theorem isClone_inv (hpossible : IsPossible history) {handle clone : Nat}
    (h : IsClone history handle clone) :
    handle < handleCount history ∧ clone < handleCount history ∧
      (after history).storeOf handle = (after history).storeOf clone := by
  induction history with
  | nil =>
      obtain ⟨later, earlier, hhistory, -⟩ := h
      simp at hhistory
  | cons op earlier ih =>
      obtain ⟨hearlier, hop⟩ := hpossible
      have hcount := handleCount_cons op earlier
      rcases isClone_cons.mp h with ⟨rfl, rfl⟩ | h
      · have hhandle : handle < handleCount earlier := hop handle rfl
        rw [HandleOp.creates, if_pos rfl] at hcount
        refine ⟨by omega, by omega, ?_⟩
        rw [storeOf_after_cons _ hhandle, storeOf_after_clone]
      · obtain ⟨hhandle, hclone, hstore⟩ := ih hearlier h
        refine ⟨by omega, by omega, ?_⟩
        rw [storeOf_after_cons op hhandle, storeOf_after_cons op hclone, hstore]

theorem storeOf_eq_of_sameFamily (hpossible : IsPossible history) {handle other : Nat}
    (h : SameFamily history handle other) :
    (after history).storeOf handle = (after history).storeOf other := by
  induction h with
  | rel handle clone hclone => exact (isClone_inv hpossible hclone).2.2
  | refl handle => rfl
  | symm _ _ _ ih => exact ih.symm
  | trans _ _ _ _ _ ih ih' => exact ih.trans ih'

/-- **The families are the groups of handles with one store.** -/
theorem storeOf_eq_iff (hpossible : IsPossible history) {handle other : Nat}
    (hhandle : handle < handleCount history) (hother : other < handleCount history) :
    (after history).storeOf handle = (after history).storeOf other ↔
      SameFamily history handle other := by
  refine ⟨fun hstore => ?_, storeOf_eq_of_sameFamily hpossible⟩
  induction history generalizing handle other with
  | nil =>
      obtain rfl : handle = 0 := Nat.lt_one_iff.mp hhandle
      obtain rfl : other = 0 := Nat.lt_one_iff.mp hother
      exact .refl 0
  | cons op earlier ih =>
      obtain ⟨hearlier, hop⟩ := hpossible
      have hnewest : ∀ {old : Nat}, old < handleCount earlier → op.creates = true →
          (after earlier).storeOf old = (after (op :: earlier)).storeOf (handleCount earlier) →
          SameFamily (op :: earlier) old (handleCount earlier) := by
        intro old hold hcreates hstore
        cases op with
        | clone cloned =>
            rw [storeOf_after_clone] at hstore
            have hfamily := ih hearlier hold (hop cloned rfl) hstore
            exact (hfamily.cons _).trans _ _ _ (.rel _ _ (isClone_cons.mpr (.inl ⟨rfl, rfl⟩)))
        | new =>
            rw [storeOf_after_new] at hstore
            exact absurd hstore (Nat.ne_of_lt (storeOf_lt hearlier hold))
        | insert | get | contains | remove => cases hcreates
      rcases lt_or_eq_of_lt_handleCount hhandle with hold | ⟨hcreates, rfl⟩ <;>
        rcases lt_or_eq_of_lt_handleCount hother with hold' | ⟨hcreates', rfl⟩
      · rw [storeOf_after_cons op hold, storeOf_after_cons op hold'] at hstore
        exact (ih hearlier hold hold' hstore).cons op
      · rw [storeOf_after_cons op hold] at hstore
        exact hnewest hold hcreates' hstore
      · rw [storeOf_after_cons op hold'] at hstore
        exact (hnewest hold' hcreates hstore.symm).symm
      · exact .refl _

/-- **In a store is what was last written** under each name, through the handles of the store. -/
theorem item?_eq_some_iff (hpossible : IsPossible history) {place : Nat} {name : String}
    {item : TypedValue V} :
    (after history).item? place name = some item ↔
      IsLatest (fun handle => (after history).storeOf handle = place) history name item := by
  induction history generalizing item with
  | nil =>
      have hempty : (single : StoreHandles V).item? place name = none := by
        cases place <;> rfl
      simp [after, hempty, not_isLatest_nil]
  | cons op earlier ih =>
      obtain ⟨hearlier, hop⟩ := hpossible
      have hkept : ∀ handle < handleCount earlier,
          (after (op :: earlier)).storeOf handle = place ↔ (after earlier).storeOf handle = place := by
        intro handle hhandle
        rw [storeOf_after_cons op hhandle]
      rw [isLatest_cons, isLatest_congr hearlier hkept, ← ih hearlier, after]
      cases op with
      | insert handle written value =>
          have hlast : (∃ other, HandleOp.insert handle written value = .insert other name item ∧
              (after earlier).storeOf other = place) ↔
              ((after earlier).storeOf handle = place ∧ written = name) ∧ value = item := by
            constructor
            · rintro ⟨other, hop, hother⟩
              cases hop
              exact ⟨⟨hother, rfl⟩, rfl⟩
            · rintro ⟨⟨hhandle, rfl⟩, rfl⟩
              exact ⟨handle, rfl, hhandle⟩
          have hlt := storeOf_lt hearlier (hop handle rfl)
          rw [perform, insert, item?_change _ hlt fun c => c.lookup_insert written name value]
          simp only [storeOf_change, hlast, HandleOp.Writes]
          by_cases hwrites : (after earlier).storeOf handle = place ∧ written = name <;>
            simp [hwrites]
      | remove handle removed =>
          have hlt := storeOf_lt hearlier (hop handle rfl)
          rw [perform, remove, item?_change _ hlt fun c => c.lookup_erase removed name]
          simp only [storeOf_change, HandleOp.Writes]
          by_cases hwrites : (after earlier).storeOf handle = place ∧ removed = name <;>
            simp [hwrites]
      | get | contains => simp [perform, HandleOp.Writes]
      | clone => simp [perform, HandleOp.Writes, item?, clone]
      | new => simp [perform, HandleOp.Writes, item?_new]

/-- An operation leaves the other stores alone. -/
theorem store_perform (h : StoreHandles V) (op : HandleOp V) {handle : Nat}
    (hhandle : handle < h.handles.length)
    (hother : ∀ other ∈ op.handle?, h.storeOf other ≠ h.storeOf handle) :
    (h.perform op).store handle = h.store handle := by
  have hchange : ∀ (other : Nat) (f : TypedStore V → TypedStore V),
      h.storeOf other ≠ h.storeOf handle → (h.change other f).store handle = h.store handle := by
    intro other f hne
    have hplace : (h.change other f).storeOf handle = h.storeOf handle := rfl
    rw [store, store, hplace, change, List.getD_eq_getElem?_getD, List.getD_eq_getElem?_getD,
      List.getElem?_modify_ne _ _ hne]
  cases op with
  | insert other => exact hchange other _ (hother other rfl)
  | remove other => exact hchange other _ (hother other rfl)
  | get | contains => rfl
  | clone => rw [store, storeOf_perform h _ hhandle, perform, clone, store]
  | new =>
      rw [store, storeOf_perform h _ hhandle, perform, new, getD_append_singleton, store]
      by_cases hlast : h.storeOf handle = h.stores.length
      · rw [if_pos hlast, List.getD_eq_default _ _ (Nat.le_of_eq hlast.symm)]
      · rw [if_neg hlast]

/-- What a handle finds after a history, and what its operations report and change. -/
structure FindsLatest [DecidableEq τ] (history : List (HandleOp V)) (h : StoreHandles V)
    (handle : Nat) : Prop where
  get?_eq_some_iff : ∀ type name value, (h.store handle).get? type name = some value ↔
    IsLatest (SameFamily history handle) history name ⟨type, value⟩
  get?_eq_none_iff : ∀ type name, (h.store handle).get? type name = none ↔
    ∀ item, IsLatest (SameFamily history handle) history name item → item.type ≠ type
  contains_iff : ∀ name, (h.store handle).contains name = true ↔
    ∃ item, IsLatest (SameFamily history handle) history name item
  /-- To put a value under a name reports whether there is one already. -/
  insert_iff : ∀ name value, (h.insert handle name value).1 = true ↔
    ∃ item, IsLatest (SameFamily history handle) history name item
  remove_iff : ∀ name, (h.remove handle name).1 = true ↔
    ∃ item, IsLatest (SameFamily history handle) history name item
  get_unchanged : ∀ type name, h.perform (.get handle type name) = h
  contains_unchanged : ∀ name, h.perform (.contains handle name) = h
  /-- What is done with handles of other families changes nothing. -/
  apart : ∀ op : HandleOp V,
    (∀ other ∈ op.handle?, other < handleCount history ∧ ¬ SameFamily history handle other) →
    (h.perform op).store handle = h.store handle

/-- **A handle finds the last write of its family**, whatever was done with all handles before. -/
theorem last_write [DecidableEq τ] (hpossible : IsPossible history) {handle : Nat}
    (hhandle : handle < handleCount history) :
    FindsLatest history (after history) handle := by
  have hlookup : ∀ {name : String} {item : TypedValue V},
      ((after history).store handle).items.lookup name = some item ↔
        IsLatest (SameFamily history handle) history name item := by
    intro name item
    refine (item?_eq_some_iff hpossible).trans (isLatest_congr hpossible fun other hother => ?_)
    exact eq_comm.trans (storeOf_eq_iff hpossible hhandle hother)
  have hcontains : ∀ name, ((after history).store handle).contains name = true ↔
      ∃ item, IsLatest (SameFamily history handle) history name item := by
    intro name
    rw [TypedStore.contains, Option.isSome_iff_exists]
    exact exists_congr fun item => hlookup
  exact {
    get?_eq_some_iff := fun type name value => TypedStore.get?_eq_some_iff.trans hlookup
    get?_eq_none_iff := fun type name => by
      rw [Option.eq_none_iff_forall_ne_some]
      constructor
      · rintro hnone ⟨other, value⟩ hlatest rfl
        exact hnone value (TypedStore.get?_eq_some_iff.mpr (hlookup.mpr hlatest))
      · intro hother value hget
        exact hother _ (hlookup.mp (TypedStore.get?_eq_some_iff.mp hget)) rfl
    contains_iff := hcontains
    insert_iff := fun name _ => hcontains name
    remove_iff := hcontains
    get_unchanged := fun _ _ => rfl
    contains_unchanged := fun _ => rfl
    apart := fun op hother => by
      refine store_perform _ op (by rwa [length_handles_after]) fun other hmem hstore => ?_
      obtain ⟨hlt, hfamily⟩ := hother other hmem
      exact hfamily ((storeOf_eq_iff hpossible hhandle hlt).mp hstore.symm) }

/-- A clone writes after the first handle, and a handle of another family after both. -/
def overwritten : List (HandleOp ContextType.Value) :=
  [.get 0 .integer "k", .insert 2 "k" ⟨.flag, true⟩, .insert 1 "k" ⟨.text, "late"⟩,
    .insert 0 "k" ⟨.integer, (5 : Int)⟩, .new, .clone 0]

theorem last_write_of_overwritten :
    IsPossible overwritten ∧ 0 < handleCount overwritten ∧
    FindsLatest overwritten (after overwritten) 0 ∧
    IsLatest (SameFamily overwritten 0) overwritten "k" ⟨.text, "late"⟩ := by
  have hpossible : IsPossible overwritten := by
    simp [IsPossible, overwritten, HandleOp.handle?, handleCount, List.countP_cons, HandleOp.creates]
  have hcount : 0 < handleCount overwritten := Nat.add_pos_left Nat.zero_lt_one _
  have hfound : FindsLatest overwritten (after overwritten) 0 := last_write hpossible hcount
  have hget : ((after overwritten).store 0).get? .text "k" = some "late" := rfl
  exact ⟨hpossible, hcount, hfound, (hfound.get?_eq_some_iff _ _ _).mp hget⟩

end StoreHandles

end WalletEvents
