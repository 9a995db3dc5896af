import WalletEvents.Proofs.Json.Canonical
import WalletEvents.Proofs.Text.Hex
import WalletEvents.Proofs.Text.Split
import WalletEvents.Proofs.Text.Utf8
import WalletEvents.Url.Percent

/-!
# Forms are read as they were written

The query of a form is split at its ampersands, each field at its first equals sign,
and a plus sign stands for a space. Neither sign is left in a written name or value,
so `Form.read?` gives the fields back, whatever their names and values are.
-/

namespace WalletEvents

namespace Percent

theorem decode_encodeByte (b : UInt8) (rest : List Char) :
    decode (encodeByte b ++ rest) = b :: decode rest := by
  have hdigit : ∀ n, n < 16 → Hex.value? (Hex.digit n).toUpper = some n := by
    intro n hn
    interval_cases n <;> rfl
  have hb : b.toNat < 256 := b.toNat_lt_size
  have hbyte : (b.toNat / 16 * 16 + b.toNat % 16).toUInt8 = b := by
    rw [Nat.div_add_mod']
    exact UInt8.ofNat_toNat
  simp only [encodeByte, List.cons_append, List.nil_append, decode,
    hdigit (b.toNat / 16) (by omega), hdigit (b.toNat % 16) (by omega), hbyte]

theorem decode_encodeBytes (bytes : List UInt8) (rest : List Char) :
    decode (bytes.flatMap encodeByte ++ rest) = bytes ++ decode rest := by
  induction bytes with
  | nil => rfl
  | cons b bytes ih =>
      rw [List.flatMap_cons, List.append_assoc, decode_encodeByte, ih, List.cons_append]

/-- Only a percent sign stands for anything but itself. -/
theorem decode_cons_of_ne {c : Char} (hc : c ≠ '%') (rest : List Char) :
    decode (c :: rest) = Utf8.encode (String.singleton c) ++ decode rest := by
  rw [decode]
  intro a b others hfirst
  exact absurd hfirst hc

/-- The digits of a written byte are large letters and figures. -/
theorem mem_encodeByte {b : UInt8} {c : Char} (h : c ∈ encodeByte b) :
    c = '%' ∨ c.isAlphanum = true := by
  have hdigit : ∀ n, n < 16 → (Hex.digit n).toUpper.isAlphanum = true := by
    intro n hn
    interval_cases n <;> rfl
  have hb : b.toNat < 256 := b.toNat_lt_size
  simp only [encodeByte, List.mem_cons, List.not_mem_nil, or_false] at h
  rcases h with rfl | rfl | rfl
  · exact .inl rfl
  · exact .inr (hdigit _ (by omega))
  · exact .inr (hdigit _ (by omega))

end Percent

namespace Form

/-- How a character of a name or a value is written. -/
def encodeChar (c : Char) : List Char :=
  if c = ' ' then ['+']
  else if keeps c then [c]
  else (Utf8.encode (String.singleton c)).flatMap Percent.encodeByte

theorem encode_eq (text : String) :
    encode text = text.toList.flatMap encodeChar := rfl

/-- The text with spaces for plus signs. -/
def spaced (written : List Char) : List Char := written.map fun c => if c = '+' then ' ' else c

/-- The name or the value that is written. -/
def decode? (written : List Char) : Option String := Utf8.decode? (Percent.decode (spaced written))

theorem spaced_append (a b : List Char) :
    spaced (a ++ b) = spaced a ++ spaced b := List.map_append

theorem spaced_of_no_plus {written : List Char} (h : '+' ∉ written) :
    spaced written = written := by
  refine (List.map_congr_left fun c hc => ?_).trans (List.map_id written)
  refine if_neg ?_
  rintro rfl
  exact h hc

/-- The signs of a form are not kept. -/
theorem keeps_sign {sign : Char} (h : sign ∈ ['&', '=', '+', '%']) :
    keeps sign = false := by
  rw [keeps, String.contains_char_eq]
  simp only [List.mem_cons, List.not_mem_nil, or_false] at h
  rcases h with rfl | rfl | rfl | rfl <;> decide

/-- What is written is neither a sign between fields nor one in them. -/
theorem mem_encodeChar {c d : Char} (h : d ∈ encodeChar c) :
    d = '+' ∧ c = ' ' ∨ d = '%' ∨ keeps d = true := by
  unfold encodeChar at h
  split at h
  · next hspace => exact .inl ⟨List.mem_singleton.mp h, hspace⟩
  · split at h
    · next hkeeps =>
      rw [List.mem_singleton.mp h]
      exact .inr (.inr hkeeps)
    · obtain ⟨b, -, hd⟩ := List.mem_flatMap.mp h
      rcases Percent.mem_encodeByte hd with rfl | hd
      · exact .inr (.inl rfl)
      · exact .inr (.inr (by simp [keeps, hd]))

theorem not_mem_encode {sign : Char} (hsign : sign = '&' ∨ sign = '=') (text : String) :
    sign ∉ encode text := by
  intro h
  obtain ⟨c, -, hc⟩ := List.mem_flatMap.mp h
  rcases mem_encodeChar hc with ⟨hplus, -⟩ | hpercent | hkeeps
  · rcases hsign with rfl | rfl <;> cases hplus
  · rcases hsign with rfl | rfl <;> cases hpercent
  · rw [keeps_sign (by rcases hsign with rfl | rfl <;> simp)] at hkeeps
    cases hkeeps

theorem decode_encodeChar (c : Char) (rest : List Char) :
    Percent.decode (spaced (encodeChar c) ++ rest) =
      Utf8.encode (String.singleton c) ++ Percent.decode rest := by
  by_cases hspace : c = ' '
  · subst hspace
    exact Percent.decode_cons_of_ne (by decide) rest
  · have hplus : '+' ∉ encodeChar c := by
      intro h
      rcases mem_encodeChar h with ⟨-, hc⟩ | hpercent | hkeeps
      · exact hspace hc
      · cases hpercent
      · cases (keeps_sign (by simp)).symm.trans hkeeps
    rw [spaced_of_no_plus hplus, encodeChar, if_neg hspace]
    split
    · next hkeeps =>
      refine Percent.decode_cons_of_ne ?_ rest
      rintro rfl
      cases (keeps_sign (by simp)).symm.trans hkeeps
    · exact Percent.decode_encodeBytes _ rest

/-- A written name or value is read as it was. -/
theorem decode?_encode (text : String) :
    decode? (encode text) = some text := by
  have hbytes : ∀ chars : List Char,
      Percent.decode (spaced (chars.flatMap encodeChar)) = Utf8.bytes chars := by
    intro chars
    induction chars with
    | nil => rfl
    | cons c rest ih =>
        rw [List.flatMap_cons, spaced_append, decode_encodeChar, ih, Utf8.bytes_cons,
          Utf8.encode_eq_bytes, String.toList_singleton]
        simp [Utf8.bytes]
  rw [decode?, encode_eq, hbytes, ← Utf8.encode_eq_bytes, Utf8.decode?_encode]

/-- A character takes one to twelve characters in a form. -/
theorem length_encodeChar (c : Char) :
    1 ≤ (encodeChar c).length ∧ (encodeChar c).length ≤ 12 := by
  have hbytes : (Utf8.encode (String.singleton c)).length = c.utf8Size := by
    rw [Utf8.encode_eq_bytes, String.toList_singleton, Utf8.bytes_cons, Utf8.bytes_nil,
      List.append_nil, String.length_utf8EncodeChar]
  have hlength : ∀ bytes : List UInt8,
      (bytes.flatMap Percent.encodeByte).length = 3 * bytes.length := by
    intro bytes
    induction bytes with
    | nil => rfl
    | cons b rest ih =>
        rw [List.flatMap_cons, List.length_append, ih, List.length_cons, Nat.mul_succ, Nat.add_comm]
        rfl
  unfold encodeChar
  split
  · decide
  · split
    · simp
    · rw [hlength, hbytes]
      have hpos := c.utf8Size_pos
      have hle := c.utf8Size_le_four
      omega

theorem length_encode (text : String) :
    text.length ≤ (encode text).length ∧ (encode text).length ≤ 12 * text.length := by
  rw [encode_eq, ← String.length_toList]
  induction text.toList with
  | nil => decide
  | cons c rest ih =>
      have hc := length_encodeChar c
      rw [List.flatMap_cons, List.length_append, List.length_cons]
      omega

/-- Reads a field; one without an equals sign has an empty value. -/
def readField? (field : List Char) : Option (String × String) := do
  let (name, value) := (cutFirst? '=' field).getD (field, [])
  some (← decode? name, ← decode? value)

/-- The fields of a form. -/
def read? (query : List Char) : Option (List (String × String)) :=
  ((splitAll '&' query).filter fun field => !field.isEmpty).mapM readField?

theorem readField?_encodeField (field : String × String) :
    readField? (encodeField field) = some field := by
  have hcut := cutFirst?_append (not_mem_encode (.inr rfl) field.1) (encode field.2)
  simp [readField?, encodeField, hcut, decode?_encode]

/-- The fields behind a first one. -/
def behind (fields : List (String × String)) : List Char :=
  fields.flatMap fun field => '&' :: encodeField field

theorem append_eq_behind {query : List Char} (hquery : query ≠ []) (fields : List (String × String)) :
    append query fields = query ++ behind fields := by
  induction fields generalizing query with
  | nil => simp [append, behind]
  | cons field rest ih =>
      have hstep : append query (field :: rest) = append (query ++ '&' :: encodeField field) rest := by
        simp [append, hquery]
      rw [hstep, ih (by simp), behind, behind, List.flatMap_cons]
      simp

/-- Every field takes its length and one more for the sign before it, which the first field lacks. -/
theorem length_append {fields : List (String × String)} (hsome : fields ≠ []) :
    (append [] fields).length + 1 = (fields.map fun field => (encodeField field).length + 1).sum := by
  cases fields with
  | nil => exact absurd rfl hsome
  | cons field rest =>
      have hfirst : append [] (field :: rest) = append (encodeField field) rest := by
        simp [append]
      have hbehind : (behind rest).length =
          (rest.map fun field => (encodeField field).length + 1).sum := by
        simp [behind, List.length_flatMap]
      rw [hfirst, append_eq_behind (by simp [encodeField]), List.length_append, hbehind,
        List.map_cons, List.sum_cons]
      omega

theorem length_encodeField (field : String × String) :
    field.2.length ≤ (encodeField field).length ∧
      (encodeField field).length ≤ 12 * (field.1.length + field.2.length) + 1 := by
  have hname := length_encode field.1
  have hvalue := length_encode field.2
  rw [encodeField, List.length_append, List.length_cons]
  omega

theorem splitAll_behind (field : String × String) (rest : List (String × String)) :
    splitAll '&' (encodeField field ++ behind rest) = (field :: rest).map encodeField := by
  have hfield : ∀ field, '&' ∉ encodeField field := by
    intro field h
    rcases List.mem_append.mp h with h | h
    · exact not_mem_encode (.inl rfl) _ h
    · rcases List.mem_cons.mp h with h | h
      · cases h
      · exact not_mem_encode (.inl rfl) _ h
  induction rest generalizing field with
  | nil => simp [behind, splitAll_of_not_mem (hfield field)]
  | cons next rest ih =>
      have hbehind : behind (next :: rest) = '&' :: (encodeField next ++ behind rest) := by
        simp [behind]
      rw [hbehind, splitAll_append (hfield field), ih, List.map_cons]
      rfl

/-- **A form is read as the fields that were written.** -/
theorem read?_append (fields : List (String × String)) :
    read? (append [] fields) = some fields := by
  have hwritten : ((splitAll '&' (append [] fields)).filter fun field => !field.isEmpty) =
      fields.map encodeField := by
    cases fields with
    | nil => rfl
    | cons field rest =>
        have hfirst : append [] (field :: rest) = append (encodeField field) rest := by
          simp [append]
        rw [hfirst, append_eq_behind (by simp [encodeField]), splitAll_behind,
          List.filter_eq_self]
        intro written hmem
        obtain ⟨field', -, rfl⟩ := List.mem_map.mp hmem
        simp [encodeField]
  rw [read?, hwritten, mapM_eq_some_iff, List.forall₂_map_left_iff, List.forall₂_same]
  exact fun field _ => readField?_encodeField field

end Form

end WalletEvents
