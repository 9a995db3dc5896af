import Mathlib.Data.List.Forall2
import WalletEvents.Webhook.Signature

/-!
# Texts joined by bars

The signed text of a notice is made of parts that are joined by vertical bars. The bars in
a part look like those between two parts, so the text does not tell where a part ends.

**Results.** Two lists of parts that have the same joined text are the same

* if their parts have as many bars in the one list as in the other, where it does not matter
  for the last one (`Signature.joined_cons_inj`, `Signature.aligned_of_bars`);
* if the second one is the first one with a text put in place of another one, however often
  that is done (`Signature.joined_inj_of_replaced`).
-/

namespace WalletEvents

/-- Texts with as many bars in front of a bar are the same there, and behind it. -/
theorem append_inj_of_bars
    {a a' b b' : List Char} (hbars : a.count '|' = a'.count '|')
    (h : a ++ '|' :: b = a' ++ '|' :: b') :
    a = a' ∧ b = b' := by
  induction a generalizing a' with
  | nil =>
      cases a' with
      | nil => exact ⟨rfl, (List.cons.inj h).2⟩
      | cons c rest =>
          obtain ⟨rfl, -⟩ := List.cons.inj h
          simp at hbars
  | cons c rest ih =>
      cases a' with
      | nil =>
          obtain ⟨rfl, -⟩ := List.cons.inj h
          simp at hbars
      | cons c' rest' =>
          obtain ⟨rfl, hrest⟩ := List.cons.inj h
          obtain ⟨rfl, rfl⟩ := ih (by simpa [List.count_cons] using hbars) hrest
          exact ⟨rfl, rfl⟩

/-- Equal texts have the same in front of their first bar, and the same behind it. -/
theorem append_bar_inj
    {a a' b b' : List Char} (ha : '|' ∉ a) (ha' : '|' ∉ a')
    (h : a ++ '|' :: b = a' ++ '|' :: b') :
    a = a' ∧ b = b' :=
  append_inj_of_bars (by rw [List.count_eq_zero.mpr ha, List.count_eq_zero.mpr ha']) h

/-- The number of bars in a text. -/
def barCount (text : String) : Nat := text.toList.count '|'

namespace Signature

theorem joined_singleton (part : String) :
    joined [part] = part := by
  simp [joined]

theorem joined_pair (first second : String) :
    joined [first, second] = first ++ "|" ++ second := by
  simp [joined, String.intercalate_cons_cons]

theorem toList_joined_cons_cons (part next : String) (rest : List String) :
    (joined (part :: next :: rest)).toList =
      part.toList ++ '|' :: (joined (next :: rest)).toList := by
  simp [joined, String.intercalate_cons_cons]

/-- The last part of a joined text. -/
theorem toList_joined_concat {parts : List String} (hparts : parts ≠ []) (last : String) :
    (joined (parts ++ [last])).toList = (joined parts).toList ++ '|' :: last.toList := by
  induction parts with
  | nil => exact absurd rfl hparts
  | cons part rest ih =>
      cases rest with
      | nil =>
          rw [List.singleton_append, toList_joined_cons_cons, joined_singleton, joined_singleton]
      | cons next rest =>
          have hrest := ih (List.cons_ne_nil next rest)
          rw [List.cons_append] at hrest
          rw [List.cons_append, List.cons_append, toList_joined_cons_cons, hrest,
            toList_joined_cons_cons, List.append_assoc, List.cons_append]

theorem barCount_joined_cons_cons (part next : String) (rest : List String) :
    barCount (joined (part :: next :: rest)) =
      barCount part + 1 + barCount (joined (next :: rest)) := by
  rw [barCount, toList_joined_cons_cons, List.count_append, List.count_cons_self, barCount, barCount]
  omega

/-- A last part without a bar can be told from the others. -/
theorem joined_concat_inj
    {ps qs : List String} {last last' : String} (hps : ps ≠ []) (hqs : qs ≠ [])
    (hlast : '|' ∉ last.toList) (hlast' : '|' ∉ last'.toList)
    (h : joined (ps ++ [last]) = joined (qs ++ [last'])) :
    joined ps = joined qs ∧ last = last' := by
  have hchars := congrArg (fun text => text.toList.reverse) h
  simp only [toList_joined_concat hps, toList_joined_concat hqs, List.reverse_append,
    List.reverse_cons, List.append_assoc, List.singleton_append] at hchars
  obtain ⟨hend, hfront⟩ := append_bar_inj (by simpa using hlast) (by simpa using hlast') hchars
  exact ⟨String.toList_inj.mp (List.reverse_inj.mp hfront),
    String.toList_inj.mp (List.reverse_inj.mp hend)⟩

/-- In equal texts, the two parts that the texts begin with end at the same bar. -/
def Aligned (p q : String) : Prop :=
  ∀ b b', p.toList ++ '|' :: b = q.toList ++ '|' :: b' → p = q ∧ b = b'

variable {p q x y : String} {ps qs : List String}

theorem aligned_of_bars (h : barCount p = barCount q) :
    Aligned p q := by
  intro b b' hchars
  obtain ⟨hpart, hrest⟩ := append_inj_of_bars h hchars
  exact ⟨String.toList_inj.mp hpart, hrest⟩

theorem aligned_of_not_mem (hp : '|' ∉ p.toList) (hq : '|' ∉ q.toList) :
    Aligned p q :=
  aligned_of_bars ((List.count_eq_zero.mpr hp).trans (List.count_eq_zero.mpr hq).symm)

theorem aligned_of_length (h : p.length = q.length) :
    Aligned p q := by
  intro b b' hchars
  obtain ⟨hpart, hrest⟩ := List.append_inj hchars (by rwa [String.length_toList, String.length_toList])
  exact ⟨String.toList_inj.mp hpart, (List.cons.inj hrest).2⟩

theorem joined_cons_inj
    (h : Aligned p q) (hjoined : joined (p :: ps) = joined (q :: qs))
    (hlength : ps.length = qs.length) :
    p = q ∧ joined ps = joined qs := by
  cases ps with
  | nil =>
      obtain rfl : qs = [] := List.length_eq_zero_iff.mp hlength.symm
      rw [joined_singleton, joined_singleton] at hjoined
      exact ⟨hjoined, rfl⟩
  | cons next rest =>
      cases qs with
      | nil => cases hlength
      | cons next' rest' =>
          have hchars := congrArg String.toList hjoined
          rw [toList_joined_cons_cons, toList_joined_cons_cons] at hchars
          obtain ⟨hpart, hrest⟩ := h _ _ hchars
          exact ⟨hpart, String.toList_inj.mp hrest⟩

theorem joined_inj_of_lengths
    (h : List.Forall₂ (fun p q : String => p.length = q.length) ps qs)
    (hjoined : joined ps = joined qs) :
    ps = qs := by
  induction h with
  | nil => rfl
  | cons hfirst hrest ih =>
      obtain ⟨rfl, hothers⟩ := joined_cons_inj (aligned_of_length hfirst) hjoined hrest.length_eq
      rw [ih hothers]

theorem length_joined_cons_cons (part next : String) (rest : List String) :
    (joined (part :: next :: rest)).length = part.length + 1 + (joined (next :: rest)).length := by
  have hchars := congrArg List.length (toList_joined_cons_cons part next rest)
  simp only [List.length_append, List.length_cons, String.length_toList] at hchars
  omega

/-- Longer parts make a longer text. -/
theorem length_joined_le (h : List.Forall₂ (fun p q : String => p.length ≤ q.length) ps qs) :
    (joined ps).length ≤ (joined qs).length := by
  induction h with
  | nil => exact Nat.le_refl _
  | cons hfirst hrest ih =>
      cases hrest with
      | nil => simpa [joined_singleton] using hfirst
      | cons =>
          rw [length_joined_cons_cons, length_joined_cons_cons]
          omega

theorem lengths_of_joined
    (h : List.Forall₂ (fun p q : String => p.length ≤ q.length) ps qs)
    (hjoined : (joined ps).length = (joined qs).length) :
    List.Forall₂ (fun p q : String => p.length = q.length) ps qs := by
  induction h with
  | nil => exact .nil
  | cons hfirst hrest ih =>
      have hle := length_joined_le hrest
      cases hrest with
      | nil => exact .cons (by simpa [joined_singleton] using hjoined) .nil
      | cons =>
          rw [length_joined_cons_cons, length_joined_cons_cons] at hjoined
          exact .cons (by omega) (ih (by omega))

/-- The parts are the same, but for some places where the one text stands in place of the other. -/
def Replaced (x y : String) : List String → List String → Prop :=
  List.Forall₂ fun p q => p = q ∨ p = x ∧ q = y

/-- However often one text is put in place of another one, the joined text is different, unless it is the
same text. -/
theorem joined_inj_of_replaced (h : Replaced x y ps qs) (hjoined : joined ps = joined qs) :
    ps = qs := by
  have hlength := congrArg String.length hjoined
  rcases Nat.le_total x.length y.length with hle | hle
  · refine joined_inj_of_lengths (lengths_of_joined (h.imp ?_) hlength) hjoined
    rintro p q (rfl | ⟨rfl, rfl⟩)
    · exact Nat.le_refl _
    · exact hle
  · refine (joined_inj_of_lengths (lengths_of_joined (h.flip.imp ?_) hlength.symm) hjoined.symm).symm
    rintro q p (rfl | ⟨rfl, rfl⟩)
    · exact Nat.le_refl _
    · exact hle

/-- A text in place of another one in one part. -/
theorem joined_ne_of_part (before after : List String) (h : x ≠ y) :
    joined (before ++ x :: after) ≠ joined (before ++ y :: after) := by
  intro hjoined
  have hsame : ∀ parts : List String, Replaced x y parts parts :=
    fun _ => List.forall₂_same.mpr fun _ _ => .inl rfl
  have hreplaced : Replaced x y (before ++ x :: after) (before ++ y :: after) :=
    List.rel_append (hsame before) (.cons (.inr ⟨rfl, rfl⟩) (hsame after))
  exact h (List.cons.inj (List.append_cancel_left (joined_inj_of_replaced hreplaced hjoined))).1

end Signature

end WalletEvents
