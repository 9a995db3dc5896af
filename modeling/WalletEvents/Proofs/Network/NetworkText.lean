import WalletEvents.Network.Cidr
import WalletEvents.Proofs.Network.AddressText
import WalletEvents.Proofs.Text.Blank

/-!
# Written networks

`Cidr.Names` says which texts name a network, without a word on how they are read: an address
alone, or an address and behind the first slash the number of bits that count, written in
decimal digits with an optional plus sign.

**Results.** A text is read as a network exactly if it names the network, apart from blanks
around it (`Cidr.read_eq_ok_iff`). The written form of a network names that network, so it is
read as the network, and reading any text and writing what was read makes no difference to the
next reader. A length that is missing, has a slash in it or is beyond the bits of the address
is always refused (`Cidr.text_round_trip`).
-/

namespace WalletEvents

theorem Address.width_le (a : Address) :
    a.width ≤ 128 := by
  cases a with
  | v4 _ => exact (by decide : 32 ≤ 128)
  | v6 _ => exact Nat.le_refl 128

namespace Cidr

/-- A number in decimal digits with an optional plus sign. -/
inductive LengthText : List Char → Nat → Prop
  | plain {digits : List Char} (hne : digits ≠ []) (hdigits : ∀ c ∈ digits, c.isDigit = true) :
      LengthText digits (digitsValue digits)
  | signed {digits : List Char} (hne : digits ≠ []) (hdigits : ∀ c ∈ digits, c.isDigit = true) :
      LengthText ('+' :: digits) (digitsValue digits)

theorem LengthText.ne_nil {text : List Char} {n : Nat} (h : LengthText text n) :
    text ≠ [] := by
  cases h with
  | plain hne _ => exact hne
  | signed _ _ => exact List.cons_ne_nil _ _

theorem LengthText.slash_not_mem {text : List Char} {n : Nat} (h : LengthText text n) :
    '/' ∉ text := by
  intro hslash
  cases h with
  | plain _ hdigits => exact absurd (hdigits _ hslash) (by decide)
  | signed _ hdigits =>
      rcases List.mem_cons.mp hslash with heq | hslash
      · exact absurd heq (by decide)
      · exact absurd (hdigits _ hslash) (by decide)

/-- A text gives at most one number. -/
theorem LengthText.unique {text : List Char} {n m : Nat} (h : LengthText text n)
    (h' : LengthText text m) :
    n = m := by
  cases h with
  | plain _ hdigits =>
      cases h' with
      | plain _ _ => rfl
      | signed _ _ => exact absurd (hdigits '+' List.mem_cons_self) (by decide)
  | signed _ _ =>
      cases h' with
      | plain _ hdigits => exact absurd (hdigits '+' List.mem_cons_self) (by decide)
      | signed _ _ => rfl

/-- The digits of a length, without the sign. -/
def withoutSign : List Char → List Char
  | '+' :: rest => rest
  | rest => rest

theorem withoutSign_of_digit {text : List Char} (h : ∀ c ∈ text, c.isDigit = true) :
    withoutSign text = text := by
  rw [withoutSign]
  rintro rest rfl
  exact absurd (h '+' List.mem_cons_self) (by decide)

theorem lengthText_iff {text : List Char} {n : Nat} :
    LengthText text n ↔ withoutSign text ≠ [] ∧ (∀ c ∈ withoutSign text, c.isDigit = true) ∧
      digitsValue (withoutSign text) = n := by
  constructor
  · intro h
    cases h with
    | plain hne hdigits =>
        rw [withoutSign_of_digit hdigits]
        exact ⟨hne, hdigits, rfl⟩
    | signed hne hdigits => exact ⟨hne, hdigits, rfl⟩
  · rintro ⟨hne, hdigits, rfl⟩
    match text with
    | [] => exact absurd rfl hne
    | c :: rest =>
        by_cases hc : c = '+'
        · subst hc
          exact .signed hne hdigits
        · have hsign : withoutSign (c :: rest) = c :: rest := by
            simp [withoutSign, hc]
          rw [hsign] at hdigits ⊢
          exact .plain (List.cons_ne_nil c rest) hdigits

/-- A length is read from the texts that give it, if it is below 256. -/
theorem length?_eq_some_iff {text : List Char} {n : Nat} :
    length? text = some n ↔ LengthText text n ∧ n < 256 := by
  have hread : length? text =
      if (withoutSign text).isEmpty || !(withoutSign text).all Char.isDigit then none
      else if digitsValueUpTo 256 (withoutSign text) < 256 then
        some (digitsValueUpTo 256 (withoutSign text)) else none := rfl
  rw [hread, lengthText_iff, digitsValueUpTo_eq]
  simp only [Option.ite_none_left_eq_some, Option.ite_none_right_eq_some, Option.some.injEq,
    Bool.or_eq_true, List.isEmpty_iff, Bool.not_eq_true', not_or, Bool.not_eq_false,
    List.all_eq_true]
  constructor
  · rintro ⟨⟨hne, hdigits⟩, hlt, rfl⟩
    exact ⟨⟨hne, hdigits, by omega⟩, hlt⟩
  · rintro ⟨⟨hne, hdigits, rfl⟩, hlt⟩
    exact ⟨⟨hne, hdigits⟩, by omega, by omega⟩

/-- A text names a network: it is an address of which all bits count, or an address and, behind the
first slash, the number of bits that count. -/
inductive Names (text : List Char) : Address → Nat → Prop
  | whole {address : Address} (hslash : '/' ∉ text)
      (haddress : Address.ofChars? text = some address) : Names text address address.width
  | cut {before length : List Char} {address : Address} {n : Nat}
      (htext : text = before ++ '/' :: length) (hslash : '/' ∉ before)
      (haddress : Address.ofChars? before = some address) (hlength : LengthText length n) :
      Names text address n

/-- Behind the first slash stands the length. -/
theorem Names.of_slash {before length : List Char} {address : Address} {n : Nat}
    (h : Names (before ++ '/' :: length) address n) (hslash : '/' ∉ before) :
    Address.ofChars? before = some address ∧ LengthText length n := by
  cases h with
  | whole hnone _ => exact absurd (by simp) hnone
  | cut htext hslash' haddress hlength =>
      have hcut := cutFirst?_append hslash length
      rw [htext, cutFirst?_append hslash'] at hcut
      cases hcut
      exact ⟨haddress, hlength⟩

theorem parts?_append {before : List Char} (hslash : '/' ∉ before) (length : List Char) :
    parts? (before ++ '/' :: length) = (Address.ofChars? before).bind fun address =>
      (length? length).map fun n => (address, n) := by
  rw [parts?, cutFirst?_append hslash]
  dsimp only
  cases Address.ofChars? before with
  | none => rfl
  | some address => cases length? length <;> rfl

theorem parts?_eq_some_iff {text : List Char} {address : Address} {n : Nat} (hn : n < 256) :
    parts? text = some (address, n) ↔ Names text address n := by
  by_cases hslash : '/' ∈ text
  · obtain ⟨before, length, rfl, hbefore⟩ := List.eq_append_cons_of_mem hslash
    have hparts : parts? (before ++ '/' :: length) = some (address, n) ↔
        Address.ofChars? before = some address ∧ length? length = some n := by
      simp [parts?_append hbefore, Option.bind_eq_some_iff]
    rw [hparts, length?_eq_some_iff]
    constructor
    · rintro ⟨haddress, hlength, -⟩
      exact .cut rfl hbefore haddress hlength
    · intro h
      obtain ⟨haddress, hlength⟩ := h.of_slash hbefore
      exact ⟨haddress, hlength, hn⟩
  · have hparts : parts? text = some (address, n) ↔
        Address.ofChars? text = some address ∧ address.width = n := by
      simp only [parts?, cutFirst?_of_not_mem hslash, Option.map_eq_some_iff, Prod.mk.injEq]
      constructor
      · rintro ⟨_, haddress, rfl, hwidth⟩
        exact ⟨haddress, hwidth⟩
      · rintro ⟨haddress, hwidth⟩
        exact ⟨address, haddress, rfl, hwidth⟩
    rw [hparts]
    constructor
    · rintro ⟨haddress, rfl⟩
      exact .whole hslash haddress
    · intro h
      cases h with
      | whole _ haddress => exact ⟨haddress, rfl⟩
      | cut htext _ _ _ => exact absurd (by simp [htext]) hslash

theorem new_eq_ok_iff {address : Address} {n : Nat} {c : Cidr} :
    new address n = .ok c ↔ address = c.address ∧ n = c.length := by
  unfold new
  constructor
  · intro h
    split at h
    · cases h
      exact ⟨rfl, rfl⟩
    · cases h
  · rintro ⟨rfl, rfl⟩
    exact dif_pos c.length_le

/-- **A text is read as a network** exactly if it names the network between its blanks. -/
theorem read_eq_ok_iff {text : String} {c : Cidr} :
    read text = .ok c ↔ Names (trimBlanks text.toList) c.address c.length := by
  have hlength : c.length < 256 := by
    have hle := c.length_le
    have hwidth := c.address.width_le
    omega
  rw [← parts?_eq_some_iff hlength, read]
  cases hparts : parts? (trimBlanks text.toList) with
  | none => simp
  | some parts => simp [new_eq_ok_iff, Prod.ext_iff]

theorem toList_text (c : Cidr) :
    c.text.toList = c.address.text.toList ++ '/' :: Nat.toDigits 10 c.length := by
  simp [text]

/-- The written form of a network names the network. -/
theorem names_text (c : Cidr) :
    Names c.text.toList c.address c.length := by
  have hslash : '/' ∉ c.address.text.toList := fun h =>
    absurd (Address.mem_textChars h) (by decide)
  have hlength : LengthText (Nat.toDigits 10 c.length) c.length := by
    have hplain := LengthText.plain Nat.toDigits_ne_nil (Json.Number.isDigit_toDigits c.length)
    rwa [digitsValue_toDigits] at hplain
  exact .cut c.toList_text hslash c.address.ofChars?_text hlength

theorem isBlank_of_mem_text {c : Cidr} {d : Char} (h : d ∈ c.text.toList) :
    isBlank d = false := by
  rw [toList_text] at h
  rcases List.mem_append.mp h with haddress | hrest
  · have hvisible : ∀ d ∈ Address.textChars, isBlank d = false :=
      List.all_iff_forall_prop.mp (by decide)
    exact hvisible d (Address.mem_textChars haddress)
  · rcases List.mem_cons.mp hrest with rfl | hdigit
    · decide
    · exact isBlank_of_isDigit (Json.Number.isDigit_toDigits _ d hdigit)

theorem trimBlanks_text
    (c : Cidr) {before after : List Char} (hbefore : ∀ d ∈ before, isBlank d = true)
    (hafter : ∀ d ∈ after, isBlank d = true) :
    trimBlanks (before ++ c.text.toList ++ after) = c.text.toList :=
  trimBlanks_eq_iff.mpr
    { around := ⟨before, after, rfl, hbefore, hafter⟩
      head := fun _ hd => isBlank_of_mem_text (List.mem_of_mem_head? hd)
      last := fun _ hd => isBlank_of_mem_text (List.mem_of_mem_getLast? hd) }

theorem read_text_between_blanks
    (c : Cidr) {before after : List Char} (hbefore : ∀ d ∈ before, isBlank d = true)
    (hafter : ∀ d ∈ after, isBlank d = true) :
    read (String.ofList (before ++ c.text.toList ++ after)) = .ok c := by
  rw [read_eq_ok_iff, String.toList_ofList, c.trimBlanks_text hbefore hafter]
  exact c.names_text

theorem read_text (c : Cidr) :
    read c.text = .ok c := by
  have hread := c.read_text_between_blanks (List.forall_mem_nil _) (List.forall_mem_nil _)
  simpa using hread

theorem read_of_not_lengthText
    {text : String} {before length : List Char}
    (htext : trimBlanks text.toList = before ++ '/' :: length) (hslash : '/' ∉ before)
    (hlength : ∀ n, n < 256 → ¬ LengthText length n) :
    read text = .error (.configuration (.invalidNetwork text)) := by
  have hnone : length? length = none := by
    rw [Option.eq_none_iff_forall_ne_some]
    intro n hn
    obtain ⟨htext, hlt⟩ := length?_eq_some_iff.mp hn
    exact hlength n hlt htext
  rw [read, htext, parts?_append hslash, hnone]
  cases Address.ofChars? before <;> rfl

theorem read_of_width_lt
    {text : String} {before length : List Char} {address : Address} {n : Nat}
    (htext : trimBlanks text.toList = before ++ '/' :: length) (hslash : '/' ∉ before)
    (haddress : Address.ofChars? before = some address) (hlength : LengthText length n)
    (hlt : n < 256) (hwidth : address.width < n) :
    read text = .error (.configuration (.lengthTooGreat n address)) := by
  rw [read, htext, parts?_append hslash, haddress, length?_eq_some_iff.mpr ⟨hlength, hlt⟩]
  exact dif_neg (Nat.not_le.mpr hwidth)

/-- **Written networks.** What is written is read again, also between blanks. The texts that are
read as a network are those that name it between their blanks, and writing it and reading it again
makes no difference. A text with a slash is refused if there is no length behind the slash or another
slash, and if the length is beyond the bits of the address. -/
theorem text_round_trip :
    (∀ (c : Cidr) (before after : List Char), (∀ d ∈ before, isBlank d = true) →
      (∀ d ∈ after, isBlank d = true) →
        read (String.ofList (before ++ c.text.toList ++ after)) = .ok c) ∧
    (∀ (text : String) (c : Cidr), read text = .ok c ↔
      ∃ inner, IsTrimmed text.toList inner ∧ Names inner c.address c.length) ∧
    (∀ (text : String) (c : Cidr), read text = .ok c → read c.text = .ok c) ∧
    ∀ (text : String) (before length : List Char),
      IsTrimmed text.toList (before ++ '/' :: length) → '/' ∉ before →
        (length = [] ∨ '/' ∈ length →
          read text = .error (.configuration (.invalidNetwork text))) ∧
        ∀ address n, Address.ofChars? before = some address → LengthText length n →
          address.width < n → read text = .error (.configuration
            (if n < 256 then .lengthTooGreat n address else .invalidNetwork text)) := by
  refine ⟨fun c before after hbefore hafter => c.read_text_between_blanks hbefore hafter,
    fun text c => ?_, fun text c _ => c.read_text, fun text before length htext hslash => ?_⟩
  · rw [read_eq_ok_iff]
    constructor
    · exact fun h => ⟨_, trimBlanks_eq_iff.mp rfl, h⟩
    · rintro ⟨inner, hinner, h⟩
      rwa [trimBlanks_eq_iff.mpr hinner]
  · rw [← trimBlanks_eq_iff] at htext
    refine ⟨fun hwrong => ?_, fun address n haddress hlength hwidth => ?_⟩
    · refine read_of_not_lengthText htext hslash fun n _ hlength => ?_
      rcases hwrong with hempty | hmore
      · exact hlength.ne_nil hempty
      · exact hlength.slash_not_mem hmore
    · split
      · next hlt => exact read_of_width_lt htext hslash haddress hlength hlt hwidth
      · next hge =>
        refine read_of_not_lengthText htext hslash fun m hm hlength' => hge ?_
        rwa [hlength.unique hlength']

/-- The network of a mapped address, of which the first 120 bits count. -/
def mappedNetwork : Cidr := ⟨.v6 #v[0, 0, 0, 0, 0, 0xffff, 0x0102, 0x0304], 120, by decide⟩

/-- A mapped address in a different spelling, and lengths that are refused. -/
theorem text_round_trip_of_mapped :
    read "\t0:0::FFFF:1.2.3.4/+0120 " = .ok mappedNetwork ∧
    read mappedNetwork.text = .ok mappedNetwork ∧
    read " ::ffff:1.2.3.4/120\n" = .ok mappedNetwork ∧
    read "10.0.0.0/33" = .error (.configuration (.lengthTooGreat 33 (.v4 #v[10, 0, 0, 0]))) ∧
    read "10.0.0.0/" = .error (.configuration (.invalidNetwork "10.0.0.0/")) ∧
    read "10.0.0.0/8/8" = .error (.configuration (.invalidNetwork "10.0.0.0/8/8")) := by
  obtain ⟨hwritten, hnames, hagain, hrefused⟩ := text_round_trip
  have hlength : LengthText "+0120".toList 120 :=
    .signed (by decide : "0120".toList ≠ []) (List.all_eq_true.mp (by decide))
  have hspelled : read "\t0:0::FFFF:1.2.3.4/+0120 " = .ok mappedNetwork := by
    refine (hnames _ _).mpr ⟨"0:0::FFFF:1.2.3.4/+0120".toList, trimBlanks_eq_iff.mp (by decide),
      .cut rfl (by decide : '/' ∉ "0:0::FFFF:1.2.3.4".toList) (by decide +kernel) hlength⟩
  have htext : mappedNetwork.text = "::ffff:1.2.3.4/120" := by
    decide +kernel
  have hblanks := hwritten mappedNetwork [' '] ['\n']
    (List.forall_mem_singleton.mpr rfl) (List.forall_mem_singleton.mpr rfl)
  rw [htext] at hblanks
  refine ⟨hspelled, hagain _ _ hspelled, hblanks, ?_, ?_, ?_⟩
  · have hlength : LengthText "33".toList 33 :=
      .plain (by decide : "33".toList ≠ []) (List.all_eq_true.mp (by decide))
    exact (hrefused _ "10.0.0.0".toList "33".toList (trimBlanks_eq_iff.mp (by decide))
      (by decide)).2 (.v4 #v[10, 0, 0, 0]) 33 (by decide +kernel) hlength (by decide)
  · exact (hrefused _ "10.0.0.0".toList [] (trimBlanks_eq_iff.mp (by decide))
      (by decide)).1 (.inl rfl)
  · exact (hrefused _ "10.0.0.0".toList "8/8".toList (trimBlanks_eq_iff.mp (by decide))
      (by decide)).1 (.inr (by decide))

end Cidr

end WalletEvents
