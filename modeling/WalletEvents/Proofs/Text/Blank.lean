import Mathlib.Data.List.TakeWhile
import WalletEvents.Text.Blank

/-!
# Texts without the blanks around them

`trimBlanks_eq_iff` says what trimming a text gives without a word on how it is done.
-/

namespace WalletEvents

/-- A text without the blanks around it. -/
structure IsTrimmed (text inner : List Char) : Prop where
  around : ∃ before after, text = before ++ inner ++ after ∧
    (∀ c ∈ before, isBlank c = true) ∧ ∀ c ∈ after, isBlank c = true
  head : ∀ c, inner.head? = some c → isBlank c = false
  last : ∀ c, inner.getLast? = some c → isBlank c = false

theorem dropBlanks_append
    {before rest : List Char} (h : ∀ c ∈ before, isBlank c = true) :
    dropBlanks (before ++ rest) = dropBlanks rest :=
  List.dropWhile_append_of_pos h

theorem dropBlanks_of_head {text : List Char} (h : ∀ c, text.head? = some c → isBlank c = false) :
    dropBlanks text = text := by
  cases text with
  | nil => rfl
  | cons c rest => exact List.dropWhile_cons_of_neg (by simp [h c rfl])

/-- There are blanks and then no blank at the beginning. -/
theorem exists_dropBlanks (text : List Char) :
    (∃ before, text = before ++ dropBlanks text ∧ ∀ c ∈ before, isBlank c = true) ∧
      ∀ c, (dropBlanks text).head? = some c → isBlank c = false := by
  refine ⟨⟨text.takeWhile isBlank, List.takeWhile_append_dropWhile.symm,
    fun c hc => List.mem_takeWhile_imp hc⟩, ?_⟩
  intro c hc
  have hhead := List.head?_dropWhile_not isBlank text
  unfold dropBlanks at hc
  rw [hc] at hhead
  simpa using hhead

theorem trimBlanks_eq_iff {text inner : List Char} :
    trimBlanks text = inner ↔ IsTrimmed text inner := by
  constructor
  · rintro rfl
    obtain ⟨⟨before, hbefore, hblank⟩, hhead⟩ := exists_dropBlanks text
    obtain ⟨⟨after, hafter, hblank'⟩, hlast⟩ := exists_dropBlanks (dropBlanks text).reverse
    have hwhole : dropBlanks text = trimBlanks text ++ after.reverse := by
      have hreverse := congrArg List.reverse hafter
      rw [List.reverse_reverse, List.reverse_append] at hreverse
      exact hreverse
    refine ⟨⟨before, after.reverse, ?_, hblank, by simpa using hblank'⟩, ?_, ?_⟩
    · rw [List.append_assoc, ← hwhole]
      exact hbefore
    · intro c hc
      refine hhead c ?_
      rw [hwhole, List.head?_append, hc]
      rfl
    · intro c hc
      refine hlast c ?_
      rwa [trimBlanks, List.getLast?_reverse] at hc
  · rintro ⟨⟨before, after, rfl, hbefore, hafter⟩, hhead, hlast⟩
    rw [trimBlanks, List.append_assoc, dropBlanks_append hbefore]
    cases inner with
    | nil =>
        have hnone : dropBlanks after = [] := List.dropWhile_eq_nil_iff.mpr hafter
        rw [List.nil_append, hnone]
        rfl
    | cons c rest =>
        have hfirst : dropBlanks (c :: rest ++ after) = c :: rest ++ after :=
          dropBlanks_of_head fun d hd => hhead d hd
        have hsecond : dropBlanks (c :: rest).reverse = (c :: rest).reverse :=
          dropBlanks_of_head fun d hd => hlast d (by rwa [List.head?_reverse] at hd)
        rw [hfirst, List.reverse_append, dropBlanks_append (by simpa using hafter), hsecond,
          List.reverse_reverse]

theorem trimBlanks_ne_nil {text : List Char} (h : ∃ c ∈ text, isBlank c = false) :
    trimBlanks text ≠ [] := by
  intro hnil
  obtain ⟨c, hc, hvisible⟩ := h
  obtain ⟨before, after, rfl, hbefore, hafter⟩ := (trimBlanks_eq_iff.mp hnil).around
  rw [List.append_nil] at hc
  rcases List.mem_append.mp hc with hc | hc
  · rw [hbefore c hc] at hvisible
    cases hvisible
  · rw [hafter c hc] at hvisible
    cases hvisible

end WalletEvents
