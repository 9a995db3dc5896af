import WalletEvents.Text.Split

/-!
# Parts of texts

A text that was put together from parts is split into these parts, if the separator
is in none of them.
-/

namespace WalletEvents

variable {separator : Char} {part text : List Char}

theorem splitAll_of_not_mem (h : separator ∉ text) :
    splitAll separator text = [text] := by
  induction text with
  | nil => rfl
  | cons c rest ih =>
      obtain ⟨hc, hrest⟩ := List.ne_and_not_mem_of_not_mem_cons h
      rw [splitAll, if_neg hc.symm, ih hrest]

theorem splitAll_append (h : separator ∉ part) (text : List Char) :
    splitAll separator (part ++ separator :: text) = part :: splitAll separator text := by
  induction part with
  | nil => rw [List.nil_append, splitAll, if_pos rfl]
  | cons c rest ih =>
      obtain ⟨hc, hrest⟩ := List.ne_and_not_mem_of_not_mem_cons h
      rw [List.cons_append, splitAll, if_neg hc.symm, ih hrest]

/-- A text that joins parts is split into them again. -/
theorem splitAll_intercalate
    {parts : List (List Char)} (hparts : parts ≠ []) (h : ∀ part ∈ parts, separator ∉ part) :
    splitAll separator ([separator].intercalate parts) = parts := by
  induction parts with
  | nil => exact absurd rfl hparts
  | cons part rest ih =>
      obtain ⟨hpart, hrest⟩ := List.forall_mem_cons.mp h
      cases rest with
      | nil => rw [List.intercalate_singleton, splitAll_of_not_mem hpart]
      | cons next rest =>
          rw [List.intercalate_cons_cons, List.append_assoc, List.singleton_append,
            splitAll_append hpart, ih (List.cons_ne_nil next rest) hrest]

/-- A joined text has the characters of its parts, and the separator. -/
theorem mem_of_mem_intercalate
    {parts : List (List Char)} {c : Char} (h : c ∈ [separator].intercalate parts) :
    c = separator ∨ ∃ part ∈ parts, c ∈ part := by
  induction parts with
  | nil => cases h
  | cons part rest ih =>
      cases rest with
      | nil => exact .inr ⟨part, List.mem_singleton_self part, by simpa using h⟩
      | cons next rest =>
          rw [List.intercalate_cons_cons, List.append_assoc, List.mem_append, List.mem_append,
            List.mem_singleton] at h
          rcases h with hpart | hseparator | hrest
          · exact .inr ⟨part, List.mem_cons_self, hpart⟩
          · exact .inl hseparator
          · exact (ih hrest).imp_right fun ⟨other, hother, hc⟩ =>
              ⟨other, List.mem_cons_of_mem _ hother, hc⟩

theorem splitAll_ne_nil (separator : Char) (text : List Char) :
    splitAll separator text ≠ [] := by
  induction text with
  | nil => exact List.cons_ne_nil _ _
  | cons c rest ih =>
      rw [splitAll]
      split
      · exact List.cons_ne_nil _ _
      · split <;> exact List.cons_ne_nil _ _

/-- There is a second part where the text begins with a separator, and nothing is before it. -/
theorem begins_iff_splitAll (separator : Char) (text : List Char) :
    text.head? = some separator ↔
      ¬ ((splitAll separator text).length < 2 ∨ (splitAll separator text).head? ≠ some []) := by
  cases text with
  | nil => simp [splitAll]
  | cons c rest =>
      by_cases hc : c = separator
      · have hlength := List.length_pos_iff.mpr (splitAll_ne_nil separator rest)
        rw [splitAll, if_pos hc, List.head?_cons, hc, List.length_cons, List.head?_cons]
        refine iff_of_true rfl fun hor => hor.elim (fun hshort => ?_) fun hfirst => hfirst rfl
        omega
      · have hfirst : (splitAll separator (c :: rest)).head? ≠ some [] := by
          rw [splitAll, if_neg hc]
          split <;> simp
        simp [hc, hfirst]

/-- The parts have the characters of the text, but for the separators. -/
theorem mem_of_mem_splitAll
    {c : Char} (hpart : part ∈ splitAll separator text) (hc : c ∈ part) :
    c ∈ text ∧ c ≠ separator := by
  induction text generalizing part with
  | nil =>
      rw [splitAll, List.mem_singleton] at hpart
      subst hpart
      cases hc
  | cons d rest ih =>
      rw [splitAll] at hpart
      split at hpart
      · rcases List.mem_cons.mp hpart with rfl | hpart
        · cases hc
        · exact (ih hpart hc).imp_left (List.mem_cons_of_mem _)
      · next hd =>
        split at hpart
        · next first others hsplit =>
          rcases List.mem_cons.mp hpart with rfl | hpart
          · rcases List.mem_cons.mp hc with rfl | hc
            · exact ⟨List.mem_cons_self, hd⟩
            · exact (ih (hsplit ▸ List.mem_cons_self) hc).imp_left (List.mem_cons_of_mem _)
          · exact (ih (hsplit ▸ List.mem_cons_of_mem _ hpart) hc).imp_left
              (List.mem_cons_of_mem _)
        · rw [List.mem_singleton] at hpart
          subst hpart
          rcases List.mem_cons.mp hc with rfl | hc
          · exact ⟨List.mem_cons_self, hd⟩
          · cases hc

/-- Every character of the text but the separator is in one of the parts. -/
theorem exists_mem_splitAll
    {c : Char} (hc : c ∈ text) (hne : c ≠ separator) :
    ∃ part ∈ splitAll separator text, c ∈ part := by
  induction text with
  | nil => cases hc
  | cons d rest ih =>
      rw [splitAll]
      rcases List.mem_cons.mp hc with rfl | hc
      · rw [if_neg hne]
        split
        · exact ⟨_, List.mem_cons_self, List.mem_cons_self⟩
        · exact ⟨_, List.mem_cons_self, List.mem_cons_self⟩
      · obtain ⟨part, hpart, hmem⟩ := ih hc
        split
        · exact ⟨part, List.mem_cons_of_mem _ hpart, hmem⟩
        · split
          · next first others hsplit =>
            rcases List.mem_cons.mp (hsplit ▸ hpart) with rfl | hpart
            · exact ⟨_, List.mem_cons_self, List.mem_cons_of_mem _ hmem⟩
            · exact ⟨part, List.mem_cons_of_mem _ hpart, hmem⟩
          · next hsplit => exact absurd hsplit (splitAll_ne_nil separator rest)

theorem cutFirst?_append (h : separator ∉ part) (text : List Char) :
    cutFirst? separator (part ++ separator :: text) = some (part, text) := by
  induction part with
  | nil => rw [List.nil_append, cutFirst?, if_pos rfl]
  | cons c rest ih =>
      obtain ⟨hc, hrest⟩ := List.ne_and_not_mem_of_not_mem_cons h
      rw [List.cons_append, cutFirst?, if_neg hc.symm, ih hrest]
      rfl

theorem cutFirst?_of_not_mem (h : separator ∉ text) :
    cutFirst? separator text = none := by
  induction text with
  | nil => rfl
  | cons c rest ih =>
      obtain ⟨hc, hrest⟩ := List.ne_and_not_mem_of_not_mem_cons h
      rw [cutFirst?, if_neg hc.symm, ih hrest]
      rfl

end WalletEvents
