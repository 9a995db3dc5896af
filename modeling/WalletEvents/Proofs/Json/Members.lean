import WalletEvents.Json.Basic
import Mathlib.Data.List.Nodup

/-!
# The members of an object

An object may be written with its members in any order and with a name repeated.
What counts is the last member of each name, which `Json.lastOf?` finds.

**Order.** `Json.sortMembers` sorts by names and then drops all members of a name
but the last. The sort is stable, so this is the last one of the object as well:
`lastOf?_sortMembers`. The result ascends, and ascending members are determined
by what counts for each name: `Ascending.eq_of_lastOf?_eq`.
-/

namespace WalletEvents

namespace Json

variable {α β : Type} {members others : List (String × α)} {name : String}

/-- The value of the last member of a name. -/
def lastOf? (name : String) : List (String × α) → Option α
  | [] => none
  | (other, value) :: rest => (lastOf? name rest).or (if other = name then some value else none)

/-- The names ascend, and none comes twice. -/
def Ascending (members : List (String × α)) : Prop :=
  members.Pairwise fun a b => a.1 ≤ b.1 ∧ a.1 ≠ b.1

/-- Only members of the name matter. -/
theorem lastOf?_filter (name : String) (members : List (String × α)) :
    lastOf? name (members.filter fun member => member.1 = name) = lastOf? name members := by
  induction members with
  | nil => rfl
  | cons member rest ih =>
      obtain ⟨other, value⟩ := member
      by_cases hname : other = name
      · rw [List.filter_cons_of_pos (by simpa using hname), lastOf?, lastOf?, ih]
      · rw [List.filter_cons_of_neg (by simpa using hname), lastOf?, ih, if_neg hname,
          Option.or_none]

theorem lastOf?_eq_none_iff :
    lastOf? name members = none ↔ name ∉ members.map Prod.fst := by
  induction members with
  | nil => simp [lastOf?]
  | cons member rest ih =>
      obtain ⟨other, value⟩ := member
      rw [lastOf?, Option.or_eq_none_iff, ih]
      by_cases hname : other = name
      · simp [hname]
      · simp [hname, Ne.symm hname]

theorem mem_of_lastOf? {value : α} (h : lastOf? name members = some value) :
    (name, value) ∈ members := by
  induction members with
  | nil => simp [lastOf?] at h
  | cons member rest ih =>
      obtain ⟨other, first⟩ := member
      rw [lastOf?, Option.or_eq_some_iff] at h
      rcases h with hrest | ⟨-, hfirst⟩
      · exact List.mem_cons_of_mem _ (ih hrest)
      · split at hfirst
        · rename_i hname
          obtain rfl := Option.some.inj hfirst
          exact hname ▸ List.mem_cons_self
        · cases hfirst

/-- If a name comes once at most, its only member is the last one. -/
theorem lookup_eq_lastOf?
    (h : (members.map Prod.fst).count name ≤ 1) :
    members.lookup name = lastOf? name members := by
  induction members with
  | nil => rfl
  | cons member rest ih =>
      obtain ⟨other, value⟩ := member
      rw [List.map_cons, List.count_cons] at h
      by_cases hname : other = name
      · have hrest : name ∉ rest.map Prod.fst := by
          rw [← List.count_eq_zero]
          simp only [hname, beq_self_eq_true, if_true] at h
          omega
        rw [lastOf?, lastOf?_eq_none_iff.mpr hrest, Option.none_or, if_pos hname, hname,
          List.lookup_cons_self]
      · have hbeq : (name == other) = false := beq_false_of_ne (Ne.symm hname)
        rw [lastOf?, if_neg hname, Option.or_none, List.lookup_cons, hbeq]
        exact ih (by omega)

theorem lastOf?_map (f : α → β) (name : String) (members : List (String × α)) :
    lastOf? name (members.map fun member => (member.1, f member.2)) =
      (lastOf? name members).map f := by
  induction members with
  | nil => rfl
  | cons member rest ih =>
      obtain ⟨other, value⟩ := member
      rw [List.map_cons, lastOf?, lastOf?, ih, Option.map_or]
      split <;> rfl

/-- Members that agree in their names agree in the last one of each name. -/
theorem rel_lastOf?
    {R : α → β → Prop} {members : List (String × α)} {others : List (String × β)}
    (h : List.Forall₂ (fun a b => a.1 = b.1 ∧ R a.2 b.2) members others) (name : String) :
    Option.Rel R (lastOf? name members) (lastOf? name others) := by
  induction h with
  | nil => exact .none
  | @cons a b rest rest' hab hrest ih =>
      obtain ⟨first, value⟩ := a
      obtain ⟨_, other⟩ := b
      obtain ⟨rfl, hvalue⟩ := hab
      rw [lastOf?, lastOf?]
      generalize lastOf? name rest = last at ih ⊢
      generalize lastOf? name rest' = last' at ih ⊢
      cases ih with
      | some hlast => exact .some hlast
      | none =>
          rw [Option.none_or, Option.none_or]
          split
          · exact .some hvalue
          · exact .none

theorem name_trans (a b c : String × α)
    (hab : decide (a.1 ≤ b.1) = true) (hbc : decide (b.1 ≤ c.1) = true) :
    decide (a.1 ≤ c.1) = true :=
  decide_eq_true (String.le_trans (of_decide_eq_true hab) (of_decide_eq_true hbc))

theorem name_total (a b : String × α) :
    (decide (a.1 ≤ b.1) || decide (b.1 ≤ a.1)) = true := by
  rw [Bool.or_eq_true, decide_eq_true_eq, decide_eq_true_eq]
  exact String.le_total a.1 b.1

/-- The sort leaves the members of one name in their order. -/
theorem filter_mergeSort (name : String) (members : List (String × α)) :
    (members.mergeSort fun a b => decide (a.1 ≤ b.1)).filter (fun member => member.1 = name) =
      members.filter fun member => member.1 = name := by
  have hequal : (members.filter fun member => member.1 = name).Pairwise
      fun a b => decide (a.1 ≤ b.1) = true := by
    refine List.pairwise_of_forall_mem_list fun a ha b hb => ?_
    have ha' : a.1 = name := by simpa using List.of_mem_filter ha
    have hb' : b.1 = name := by simpa using List.of_mem_filter hb
    rw [ha', hb']
    exact decide_eq_true (String.le_refl name)
  have hsub := (List.sublist_mergeSort name_trans name_total hequal List.filter_sublist).filter
    fun member => decide (member.1 = name)
  rw [List.filter_filter] at hsub
  simp only [Bool.and_self] at hsub
  have hperm := (List.mergeSort_perm members fun a b => decide (a.1 ≤ b.1)).filter
    fun member => decide (member.1 = name)
  exact (hsub.eq_of_length hperm.length_eq.symm).symm

theorem lastOf?_lastOfEach (name : String) (members : List (String × α)) :
    lastOf? name (lastOfEach members) = lastOf? name members := by
  fun_induction lastOfEach members with
  | case1 => rfl
  | case2 member => rfl
  | case3 value name' value' rest ih =>
      rw [ih]
      by_cases hname : name' = name
      · cases hrest : lastOf? name rest <;> simp [lastOf?, hname, hrest]
      · simp [lastOf?, hname]
  | case4 first value name' value' rest hne ih =>
      have hcons : ∀ others : List (String × α), lastOf? name ((first, value) :: others) =
          (lastOf? name others).or (if first = name then some value else none) := fun _ => rfl
      rw [hcons, hcons, ih]

/-- **Sorting keeps what counts for a name.** -/
theorem lastOf?_sortMembers (name : String) (members : List (String × α)) :
    lastOf? name (sortMembers members) = lastOf? name members := by
  rw [sortMembers, lastOf?_lastOfEach, ← lastOf?_filter, filter_mergeSort, lastOf?_filter]

theorem lastOfEach_sublist (members : List (String × α)) :
    (lastOfEach members).Sublist members := by
  fun_induction lastOfEach members with
  | case1 => exact .slnil
  | case2 member => exact .refl _
  | case3 value name' value' rest ih => exact ih.cons _
  | case4 first value name' value' rest hne ih => exact ih.cons_cons _

theorem ascending_lastOfEach
    (h : members.Pairwise fun a b => a.1 ≤ b.1) :
    Ascending (lastOfEach members) := by
  fun_induction lastOfEach members with
  | case1 => exact .nil
  | case2 member => exact List.pairwise_singleton _ _
  | case3 value name' value' rest ih => exact ih h.tail
  | case4 first value name' value' rest hne ih =>
      obtain ⟨hfirst, hrest⟩ := List.pairwise_cons.mp h
      refine List.pairwise_cons.mpr ⟨fun member hmember => ?_, ih hrest⟩
      have hmem := (lastOfEach_sublist _).subset hmember
      refine ⟨hfirst member hmem, ?_⟩
      rintro rfl
      have hsecond : name' ≤ member.1 := by
        rcases List.mem_cons.mp hmem with rfl | hlater
        · exact String.le_refl _
        · exact (List.pairwise_cons.mp hrest).1 member hlater
      exact hne (String.le_antisymm (hfirst _ List.mem_cons_self) hsecond)

/-- **Sorted members ascend.** -/
theorem ascending_sortMembers (members : List (String × α)) :
    Ascending (sortMembers members) :=
  ascending_lastOfEach
    ((List.pairwise_mergeSort name_trans name_total members).imp fun h => of_decide_eq_true h)

theorem mem_of_mem_sortMembers {member : String × α} (h : member ∈ sortMembers members) :
    member ∈ members :=
  (List.mergeSort_perm _ _).mem_iff.mp ((lastOfEach_sublist _).subset h)

namespace Ascending

theorem nodup (h : Ascending members) :
    (members.map Prod.fst).Nodup :=
  List.pairwise_map.mpr (h.imp fun hab => hab.2)

theorem lookup_eq (h : Ascending members) (name : String) :
    members.lookup name = lastOf? name members :=
  lookup_eq_lastOf? (List.nodup_iff_count_le_one.mp h.nodup name)

theorem mem_iff (h : Ascending members) {value : α} :
    (name, value) ∈ members ↔ lastOf? name members = some value := by
  constructor
  · intro hmem
    cases hlast : lastOf? name members with
    | none => exact absurd (List.mem_map_of_mem hmem) (lastOf?_eq_none_iff.mp hlast)
    | some last =>
        have hpair := List.inj_on_of_nodup_map h.nodup (mem_of_lastOf? hlast) hmem rfl
        exact congrArg some (congrArg Prod.snd hpair)
  · exact mem_of_lastOf?

/-- **Ascending members are determined by what counts for each name.** -/
theorem eq_of_lastOf?_eq
    (h : Ascending members) (h' : Ascending others)
    (hsame : ∀ name, lastOf? name members = lastOf? name others) :
    members = others := by
  have hmem : ∀ member, member ∈ members ↔ member ∈ others := by
    rintro ⟨name, value⟩
    rw [h.mem_iff, h'.mem_iff, hsame]
  have hnodup : members.Nodup := List.Nodup.of_map _ h.nodup
  have hperm : members.Perm others :=
    (List.perm_ext_iff_of_nodup hnodup (List.Nodup.of_map _ h'.nodup)).mpr hmem
  refine hperm.eq_of_pairwise (fun a b _ _ hab hba => ?_) h h'
  exact absurd (String.le_antisymm hab.1 hba.1) hab.2

theorem sortMembers_eq (h : Ascending members) :
    sortMembers members = members :=
  (ascending_sortMembers members).eq_of_lastOf?_eq h fun name => lastOf?_sortMembers name members

end Ascending

/-- Members of different names are only put in order. -/
theorem sortMembers_perm
    (h : (members.map Prod.fst).Nodup) :
    (sortMembers members).Perm members := by
  have hsorted := (ascending_sortMembers members).nodup
  refine (List.perm_ext_iff_of_nodup (List.Nodup.of_map _ hsorted)
    (List.Nodup.of_map _ h)).mpr fun member => ⟨mem_of_mem_sortMembers, fun hmem => ?_⟩
  have hlookup := lookup_eq_lastOf? (List.nodup_iff_count_le_one.mp h member.1)
  cases hlast : lastOf? member.1 members with
  | none => exact absurd (List.mem_map_of_mem hmem) (lastOf?_eq_none_iff.mp hlast)
  | some last =>
      have hpair := List.inj_on_of_nodup_map h (mem_of_lastOf? hlast) hmem rfl
      rw [← lastOf?_sortMembers] at hlast
      exact hpair ▸ mem_of_lastOf? hlast

end Json

end WalletEvents
