import WalletEvents.Network.Address
import WalletEvents.Proofs.Json.Canonical
import WalletEvents.Proofs.Json.Numeral
import WalletEvents.Proofs.Text.Digits
import WalletEvents.Proofs.Text.Hex
import WalletEvents.Proofs.Text.Split
import Mathlib.Data.List.TakeWhile

/-!
# Written addresses

An address of the sixth version is written with its first longest run of zero groups as a gap, and
a mapped one with its last groups as octets. This module follows the reader through what is written.

* A part between separators is read as the octet or the group that it was made of
  (`octet?_octetChars`, `group?_groupChars`), and joined parts are split again.
* Groups have no gap in them, so that the reader cuts at the gap that was written
  (`cutAtGap?_joinedGroups`), and the groups left out there are the zeros it puts back
  (`longestZeroRun_spec`, `allGroups?_gap`).
* The octets of a mapped address are put together to its last two groups (`join_halves`).

**Result.** The written form of every address is read as the address (`Address.ofChars?_text`). It
consists of digits of base 16, points and colons (`Address.mem_textChars`).
-/

namespace WalletEvents

namespace Address

theorem exists_digit_of_mem_toDigits
    {base n : Nat} {c : Char} (hbase : 1 < base) (hc : c ∈ Nat.toDigits base n) :
    ∃ m < base, c = Hex.digit m := by
  induction n using Nat.strong_induction_on with
  | _ n ih =>
      rw [Nat.toDigits_eq_if hbase] at hc
      split at hc
      · next hn => exact ⟨n, hn, List.mem_singleton.mp hc⟩
      · next hn =>
        have hlt : n / base < n := Nat.div_lt_self (by omega) hbase
        rcases List.mem_append.mp hc with hc | hc
        · exact ih (n / base) hlt hc
        · exact ⟨n % base, Nat.mod_lt _ (by omega), List.mem_singleton.mp hc⟩

theorem hexValue?_toDigits (n : Nat) :
    hexValue? (Nat.toDigits 16 n) = some n := by
  induction n using Nat.strong_induction_on with
  | _ n ih =>
      rw [Nat.toDigits_eq_if (by decide)]
      split
      · next hn =>
        have hdigit : Hex.value? (Nat.digitChar n) = some n := Hex.value?_digit hn
        simp [hexValue?, hdigit]
      · next hn =>
        have hrest := ih (n / 16) (by omega)
        have hdigit : Hex.value? (Nat.digitChar (n % 16)) = some (n % 16) :=
          Hex.value?_digit (by omega)
        unfold hexValue? at hrest ⊢
        rw [List.foldlM_append, hrest]
        simp [hdigit]
        omega

/-- The digits of a group. -/
def groupChars (group : UInt16) : List Char := Nat.toDigits 16 group.toNat

/-- The digits of an octet. -/
def octetChars (octet : UInt8) : List Char := Nat.toDigits 10 octet.toNat

theorem group?_groupChars (group : UInt16) :
    group? (groupChars group) = some group := by
  have hlength : (groupChars group).length ≤ 4 := by
    rw [groupChars, Nat.length_toDigits_le_iff (by decide) (by decide)]
    exact group.toNat_lt
  have hnonempty : (groupChars group).isEmpty = false := by
    simp [groupChars]
  rw [group?, hnonempty, Bool.false_or, if_neg (by simpa using hlength), groupChars, hexValue?_toDigits,
    Option.map_some]
  exact congrArg some UInt16.ofNat_toNat

theorem octet?_octetChars (octet : UInt8) :
    octet? (octetChars octet) = some octet := by
  have hlength : (octetChars octet).length ≤ 3 := by
    rw [octetChars, Nat.length_toDigits_le_iff (by decide) (by decide)]
    have := octet.toNat_lt
    omega
  have hnonempty : (octetChars octet).isEmpty = false := by
    simp [octetChars]
  have hdigits : (octetChars octet).all Char.isDigit = true :=
    List.all_eq_true.mpr (Json.Number.isDigit_toDigits _)
  have hzero : ¬ ((octetChars octet).head? = some '0' ∧ octetChars octet ≠ ['0']) := by
    rintro ⟨hhead, hne⟩
    rcases Nat.eq_zero_or_pos octet.toNat with hn | hn
    · exact hne (by rw [octetChars, hn]; rfl)
    · exact head?_toDigits_ne_zero hn hhead
  have hvalue : digitsValue (octetChars octet) = octet.toNat := digitsValue_toDigits _
  have hlt : octet.toNat < 256 := octet.toNat_lt
  rw [octet?, hnonempty, hdigits, if_neg (by simpa using hlength), if_neg hzero, hvalue]
  dsimp only
  rw [if_pos hlt]
  exact congrArg some UInt8.ofNat_toNat

theorem not_mem_groupChars {c : Char} (hc : ∀ n < 16, c ≠ Hex.digit n) (group : UInt16) :
    c ∉ groupChars group := by
  intro hmem
  obtain ⟨n, hn, rfl⟩ := exists_digit_of_mem_toDigits (by decide) hmem
  exact hc n hn rfl

theorem not_mem_octetChars {c : Char} (hc : ∀ n < 10, c ≠ Hex.digit n) (octet : UInt8) :
    c ∉ octetChars octet := by
  intro hmem
  obtain ⟨n, hn, rfl⟩ := exists_digit_of_mem_toDigits (by decide) hmem
  exact hc n hn rfl

/-- Groups with colons between them, as characters. -/
def joinedGroups (groups : List UInt16) : List Char := [':'].intercalate (groups.map groupChars)

/-- Octets with dots between them, as characters. -/
def joinedOctets (octets : List UInt8) : List Char := ['.'].intercalate (octets.map octetChars)

theorem toList_groupsText (groups : List UInt16) :
    (groupsText groups).toList = joinedGroups groups := by
  have hparts : (groups.map fun group => String.ofList (Nat.toDigits 16 group.toNat)).map
      String.toList = groups.map groupChars := by
    rw [List.map_map]
    exact List.map_congr_left fun group _ => String.toList_ofList
  rw [groupsText, String.toList_intercalate, hparts]
  rfl

theorem toList_octetsText (octets : List UInt8) :
    (octetsText octets).toList = joinedOctets octets := by
  have hparts : (octets.map fun octet => Nat.repr octet.toNat).map String.toList =
      octets.map octetChars := by
    rw [List.map_map]
    exact List.map_congr_left fun octet _ => Nat.toList_repr
  rw [octetsText, String.toList_intercalate, hparts]
  rfl

/-- Parts are read one by one, if what each was made of is read from it. -/
theorem mapM_map_eq_some
    {α β : Type} {write : α → β} {read? : β → Option α} (h : ∀ a, read? (write a) = some a)
    (as : List α) :
    (as.map write).mapM read? = some as := by
  rw [mapM_eq_some_iff, List.forall₂_map_left_iff, List.forall₂_same]
  exact fun a _ => h a

theorem splitAll_joinedGroups {groups : List UInt16} (h : groups ≠ []) :
    splitAll ':' (joinedGroups groups) = groups.map groupChars := by
  refine splitAll_intercalate (by simpa using h) ?_
  simp only [List.mem_map]
  rintro _ ⟨group, -, rfl⟩
  exact not_mem_groupChars (by decide) group

theorem octets?_joinedOctets {octets : List UInt8} (h : octets.length = 4) :
    octets? (joinedOctets octets) = some octets := by
  have hsplit : splitAll '.' (joinedOctets octets) = octets.map octetChars := by
    refine splitAll_intercalate ?_ ?_
    · rintro hnil
      rw [List.map_eq_nil_iff.mp hnil] at h
      cases h
    · simp only [List.mem_map]
      rintro _ ⟨octet, -, rfl⟩
      exact not_mem_octetChars (by decide) octet
  rw [octets?, hsplit, mapM_map_eq_some octet?_octetChars]
  exact if_pos h

theorem mem_joinedOctets {octets : List UInt8} {c : Char} (hc : c ∈ joinedOctets octets) :
    c = '.' ∨ ∃ n < 10, c = Hex.digit n := by
  rcases mem_of_mem_intercalate hc with hdot | ⟨part, hpart, hmem⟩
  · exact .inl hdot
  · obtain ⟨octet, -, rfl⟩ := List.mem_map.mp hpart
    exact .inr (exists_digit_of_mem_toDigits (by decide) hmem)

theorem mem_joinedGroups {groups : List UInt16} {c : Char} (hc : c ∈ joinedGroups groups) :
    c = ':' ∨ ∃ n < 16, c = Hex.digit n := by
  rcases mem_of_mem_intercalate hc with hcolon | ⟨part, hpart, hmem⟩
  · exact .inl hcolon
  · obtain ⟨group, -, rfl⟩ := List.mem_map.mp hpart
    exact .inr (exists_digit_of_mem_toDigits (by decide) hmem)

theorem octets?_of_not_mem {text : List Char} (h : '.' ∉ text) :
    octets? text = none := by
  rw [octets?, splitAll_of_not_mem h, List.mapM_cons, List.mapM_nil]
  cases octet? text <;> simp

theorem octets?_of_colon_mem {text : List Char} (h : ':' ∈ text) :
    octets? text = none := by
  rw [Option.eq_none_iff_forall_ne_some]
  intro octets hoctets
  obtain ⟨parts, hparts, -⟩ := Option.bind_eq_some_iff.mp hoctets
  obtain ⟨part, hpart, hcolon⟩ := exists_mem_splitAll h (by decide : ':' ≠ '.')
  obtain ⟨octet, -, hoctet⟩ := exists_of_forall₂ (mapM_eq_some_iff.mp hparts).flip hpart
  have hdigits : part.all Char.isDigit = false := by
    rw [List.all_eq_false]
    exact ⟨':', hcolon, by decide⟩
  rw [octet?, hdigits] at hoctet
  simp at hoctet

theorem lastGroups?_groupChars (group : UInt16) :
    lastGroups? (groupChars group) = some [group] := by
  rw [lastGroups?, octets?_of_not_mem (not_mem_groupChars (by decide) group), group?_groupChars]
  rfl

theorem groupsOfParts?_groupChars (groups : List UInt16) :
    groupsOfParts? (groups.map groupChars) = some groups := by
  induction groups with
  | nil => rfl
  | cons group rest ih =>
      cases rest with
      | nil => exact lastGroups?_groupChars group
      | cons next rest =>
          rw [List.map_cons, List.map_cons, groupsOfParts?, group?_groupChars, ← List.map_cons, ih]
          · rfl
          · simp

theorem isEmpty_joinedGroups (groups : List UInt16) :
    (joinedGroups groups).isEmpty = groups.isEmpty := by
  cases groups with
  | nil => rfl
  | cons group rest =>
      have hne : groupChars group ≠ [] := Nat.toDigits_ne_nil
      cases rest with
      | nil => simpa [joinedGroups] using hne
      | cons next rest => simp [joinedGroups, List.intercalate_cons_cons]

/-- Groups are read from what they are written as. -/
theorem groups?_joinedGroups (groups : List UInt16) :
    groups? (joinedGroups groups) = some groups ∧ plainGroups? (joinedGroups groups) = some groups := by
  rw [groups?, plainGroups?, isEmpty_joinedGroups]
  cases groups with
  | nil => exact ⟨rfl, rfl⟩
  | cons group rest =>
      rw [splitAll_joinedGroups (List.cons_ne_nil group rest)]
      exact ⟨groupsOfParts?_groupChars _, mapM_map_eq_some group?_groupChars _⟩

theorem cutAtGap?_cons {c : Char} (hc : c ≠ ':') (rest : List Char) :
    cutAtGap? (c :: rest) = (cutAtGap? rest).map (Prod.map (c :: ·) id) := by
  rw [cutAtGap?]
  · rfl
  · rintro _ rfl
    exact absurd rfl hc

theorem cutAtGap?_colon_cons {c : Char} (hc : c ≠ ':') (rest : List Char) :
    cutAtGap? (':' :: c :: rest) = (cutAtGap? (c :: rest)).map (Prod.map (':' :: ·) id) := by
  rw [cutAtGap?]
  · rfl
  · intro _ _ heq
    exact absurd (List.cons.inj heq).1 hc

theorem cutAtGap?_append {part : List Char} (hpart : ':' ∉ part) (text : List Char) :
    cutAtGap? (part ++ text) = (cutAtGap? text).map (Prod.map (part ++ ·) id) := by
  induction part with
  | nil => exact (congrFun Option.map_id (cutAtGap? text)).symm
  | cons c rest ih =>
      obtain ⟨hc, hrest⟩ := List.ne_and_not_mem_of_not_mem_cons hpart
      rw [List.cons_append, cutAtGap?_cons hc.symm, ih hrest, Option.map_map, Prod.map_comp_map]
      rfl

theorem joinedGroups_singleton (group : UInt16) :
    joinedGroups [group] = groupChars group :=
  List.intercalate_singleton

theorem joinedGroups_cons_cons (group next : UInt16) (rest : List UInt16) :
    joinedGroups (group :: next :: rest) = groupChars group ++ ':' :: joinedGroups (next :: rest) := by
  simp [joinedGroups, List.intercalate_cons_cons]

/-- Groups begin with a digit. -/
theorem exists_joinedGroups (group : UInt16) (rest : List UInt16) :
    ∃ c chars, joinedGroups (group :: rest) = c :: chars ∧ c ≠ ':' := by
  have hcolon : ':' ∉ groupChars group := not_mem_groupChars (by decide) group
  obtain ⟨c, chars, hchars⟩ := List.exists_cons_of_ne_nil
    (show groupChars group ≠ [] from Nat.toDigits_ne_nil)
  rw [hchars] at hcolon
  refine ⟨c, ?_⟩
  cases rest with
  | nil =>
      rw [joinedGroups_singleton]
      exact ⟨chars, hchars, (List.ne_and_not_mem_of_not_mem_cons hcolon).1.symm⟩
  | cons next rest =>
      rw [joinedGroups_cons_cons, hchars]
      exact ⟨_, rfl, (List.ne_and_not_mem_of_not_mem_cons hcolon).1.symm⟩

/-- There is no gap in groups, and what stands behind them is searched for one. -/
theorem cutAtGap?_joinedGroups (groups : List UInt16) (text : List Char) :
    cutAtGap? (joinedGroups groups ++ text) =
      (cutAtGap? text).map (Prod.map (joinedGroups groups ++ ·) id) := by
  induction groups with
  | nil => exact cutAtGap?_append (List.not_mem_nil) text
  | cons group rest ih =>
      have hgroup : ':' ∉ groupChars group := not_mem_groupChars (by decide) group
      cases rest with
      | nil =>
          rw [joinedGroups_singleton]
          exact cutAtGap?_append hgroup text
      | cons next rest =>
          obtain ⟨c, chars, hchars, hc⟩ := exists_joinedGroups next rest
          have hbehind : cutAtGap? (':' :: (joinedGroups (next :: rest) ++ text)) =
              (cutAtGap? (joinedGroups (next :: rest) ++ text)).map (Prod.map (':' :: ·) id) := by
            rw [hchars]
            exact cutAtGap?_colon_cons hc _
          rw [joinedGroups_cons_cons, List.append_assoc, List.cons_append,
            cutAtGap?_append hgroup, hbehind, ih, Option.map_map, Option.map_map,
            Prod.map_comp_map, Prod.map_comp_map]
          congr 2
          funext before
          simp

theorem allGroups?_joinedGroups (groups : List UInt16) :
    allGroups? (joinedGroups groups) = some groups := by
  have hgap : cutAtGap? (joinedGroups groups) = none := by
    simpa [cutAtGap?] using cutAtGap?_joinedGroups groups []
  rw [allGroups?, hgap]
  exact (groups?_joinedGroups groups).1

/-- A gap is filled up to eight groups. -/
theorem allGroups?_gap
    {before after : List UInt16} {text : List Char} (htext : groups? text = some after)
    (hlength : before.length + after.length ≤ 7) :
    allGroups? (joinedGroups before ++ ':' :: ':' :: text) =
      some (before ++ List.replicate (8 - before.length - after.length) 0 ++ after) := by
  have hgap : cutAtGap? (joinedGroups before ++ ':' :: ':' :: text) =
      some (joinedGroups before, text) := by
    simpa [cutAtGap?] using cutAtGap?_joinedGroups before (':' :: ':' :: text)
  simp only [allGroups?, hgap, (groups?_joinedGroups before).2, htext, Option.bind_eq_bind,
    Option.bind_some, if_pos hlength]

theorem takeWhile_zero (groups : List UInt16) :
    groups.takeWhile (· == 0) = List.replicate (zeroRun groups) 0 := by
  refine List.eq_replicate_iff.mpr ⟨rfl, fun group hgroup => ?_⟩
  simpa using List.mem_takeWhile_imp hgroup

/-- The run that is found is one of zeros, with the other groups before and behind it. -/
theorem longestZeroRun_spec {groups : List UInt16} {place length : Nat}
    (h : longestZeroRun groups = (place, length)) :
    place + length ≤ groups.length ∧
      groups = groups.take place ++ (List.replicate length 0 ++ groups.drop (place + length)) := by
  induction groups generalizing place length with
  | nil =>
      obtain ⟨rfl, rfl⟩ := Prod.mk.inj h
      exact ⟨Nat.le_refl _, rfl⟩
  | cons group rest ih =>
      obtain ⟨place', length', hrest⟩ : ∃ place' length', longestZeroRun rest = (place', length') :=
        ⟨_, _, rfl⟩
      rw [longestZeroRun, hrest] at h
      dsimp only at h
      split at h
      · obtain ⟨rfl, rfl⟩ := Prod.mk.inj h
        have hsplit := List.takeWhile_append_dropWhile (p := (· == (0 : UInt16))) (l := group :: rest)
        rw [takeWhile_zero] at hsplit
        have hlength := congrArg List.length hsplit
        rw [List.length_append, List.length_replicate] at hlength
        have hdrop : (group :: rest).drop (zeroRun (group :: rest)) =
            (group :: rest).dropWhile (· == 0) := by
          conv_lhs => arg 2; rw [← hsplit]
          exact List.drop_left' List.length_replicate
        rw [Nat.zero_add, hdrop, List.take_zero, List.nil_append, hsplit]
        exact ⟨by omega, rfl⟩
      · obtain ⟨rfl, rfl⟩ := Prod.mk.inj h
        obtain ⟨hle, hgroups⟩ := ih hrest
        rw [Nat.add_right_comm, List.length_cons, List.take_succ_cons, List.drop_succ_cons,
          List.cons_append, ← hgroups]
        exact ⟨by omega, rfl⟩

/-- The halves of a group make it up again. -/
theorem join_halves (group : UInt16) :
    (group >>> 8).toUInt8.toUInt16 <<< 8 ||| group.toUInt8.toUInt16 = group := by
  have hlt : group.toNat < 65536 := group.toNat_lt
  have hhigh : group.toNat >>> 8 % 256 = group.toNat / 256 := by
    rw [Nat.shiftRight_eq_div_pow]
    omega
  have hshifted : (group.toNat / 256) <<< 8 % 65536 = (group.toNat / 256) <<< 8 := by
    rw [Nat.shiftLeft_eq]
    omega
  have hnumber : (group.toNat >>> 8 % 256) <<< 8 % 65536 ||| group.toNat % 256 = group.toNat := by
    rw [hhigh, hshifted, ← Nat.shiftLeft_add_eq_or_of_lt (by omega), Nat.shiftLeft_eq]
    omega
  apply UInt16.toNat_inj.mp
  simpa using hnumber

/-- Two groups written as octets, behind another group. -/
theorem groups?_mapped (front high low : UInt16) :
    groups? (groupChars front ++ ':' :: joinedOctets
      [(high >>> 8).toUInt8, high.toUInt8, (low >>> 8).toUInt8, low.toUInt8]) =
        some [front, high, low] := by
  have hcolon : ':' ∉ joinedOctets
      [(high >>> 8).toUInt8, high.toUInt8, (low >>> 8).toUInt8, low.toUInt8] := by
    intro hmem
    rcases mem_joinedOctets hmem with hdot | ⟨n, hn, hdigit⟩
    · exact absurd hdot (by decide)
    · exact absurd hdigit ((by decide : ∀ n < 10, ':' ≠ Hex.digit n) n hn)
  have hlast : lastGroups? (joinedOctets
      [(high >>> 8).toUInt8, high.toUInt8, (low >>> 8).toUInt8, low.toUInt8]) = some [high, low] := by
    rw [lastGroups?, octets?_joinedOctets rfl]
    simp only [join_halves]
  rw [groups?, if_neg (by simp), splitAll_append (not_mem_groupChars (by decide) front),
    splitAll_of_not_mem hcolon]
  simp [groupsOfParts?, group?_groupChars, hlast]

theorem ofChars?_octets (octets : Vector UInt8 4) :
    ofChars? (joinedOctets octets.toList) = some (.v4 octets) := by
  have hread := octets?_joinedOctets (show octets.toList.length = 4 by simp)
  obtain ⟨octets, hsize⟩ := octets
  rw [ofChars?, hread]
  simp [hsize]

theorem ofChars?_groups
    {text : List Char} {groups : Vector UInt16 8} (hcolon : ':' ∈ text)
    (h : allGroups? text = some groups.toList) :
    ofChars? text = some (.v6 groups) := by
  obtain ⟨groups, hsize⟩ := groups
  rw [ofChars?, octets?_of_colon_mem hcolon, h]
  simp [hsize]

theorem allGroups?_shortenedText {groups : List UInt16} (hlength : groups.length = 8) :
    allGroups? (shortenedText groups).toList = some groups := by
  obtain ⟨place, length, hrun⟩ : ∃ place length, longestZeroRun groups = (place, length) :=
    ⟨_, _, rfl⟩
  obtain ⟨hle, hgroups⟩ := longestZeroRun_spec hrun
  rw [shortenedText, hrun]
  dsimp only
  split
  · next hlong =>
    have hbefore : (groups.take place).length = place := by
      rw [List.length_take]
      omega
    have hafter : (groups.drop (place + length)).length = 8 - (place + length) := by
      rw [List.length_drop, hlength]
    have hchars : (groupsText (groups.take place) ++ "::" ++
        groupsText (groups.drop (place + length))).toList =
          joinedGroups (groups.take place) ++
            ':' :: ':' :: joinedGroups (groups.drop (place + length)) := by
      simp [toList_groupsText]
    rw [hchars, allGroups?_gap (groups?_joinedGroups _).1 (by omega), hbefore, hafter,
      show 8 - place - (8 - (place + length)) = length by omega, List.append_assoc, ← hgroups]
  · rw [toList_groupsText, allGroups?_joinedGroups]

theorem colon_mem_shortenedText {groups : List UInt16} (hlength : groups.length = 8) :
    ':' ∈ (shortenedText groups).toList := by
  rw [shortenedText]
  dsimp only
  split
  · simp
  · obtain ⟨group, next, rest, rfl⟩ : ∃ group next rest, groups = group :: next :: rest := by
      match groups, hlength with
      | group :: next :: rest, _ => exact ⟨group, next, rest, rfl⟩
    rw [toList_groupsText, joinedGroups_cons_cons]
    simp

/-- **An address is read from its written form.** -/
theorem ofChars?_text (a : Address) :
    ofChars? a.text.toList = some a := by
  cases a with
  | v4 octets =>
      rw [text, toList_octetsText]
      exact ofChars?_octets octets
  | v6 groups =>
      have hlength : groups.toList.length = 8 := by simp
      rw [text]
      split
      · next high low hgroups =>
        have hchars : ("::ffff:" ++ octetsText
            [(high >>> 8).toUInt8, high.toUInt8, (low >>> 8).toUInt8, low.toUInt8]).toList =
              ':' :: ':' :: (groupChars 0xffff ++ ':' :: joinedOctets
                [(high >>> 8).toUInt8, high.toUInt8, (low >>> 8).toUInt8, low.toUInt8]) := by
          rw [String.toList_append, toList_octetsText]
          rfl
        rw [hchars]
        refine ofChars?_groups List.mem_cons_self ?_
        rw [hgroups]
        exact allGroups?_gap (groups?_mapped 0xffff high low)
          (show ([] : List UInt16).length + [0xffff, high, low].length ≤ 7 by simp)
      · exact ofChars?_groups (colon_mem_shortenedText hlength) (allGroups?_shortenedText hlength)

/-- The characters that addresses are written with. -/
def textChars : List Char := "0123456789abcdef.:".toList

theorem mem_textChars {a : Address} {c : Char} (hc : c ∈ a.text.toList) :
    c ∈ textChars := by
  have hdigits : ∀ n < 16, Hex.digit n ∈ textChars := by
    decide
  have hoctets : ∀ octets, c ∈ joinedOctets octets → c ∈ textChars := by
    intro octets hmem
    rcases mem_joinedOctets hmem with rfl | ⟨n, hn, rfl⟩
    · decide
    · exact hdigits n (by omega)
  have hgroups : ∀ groups, c ∈ joinedGroups groups → c ∈ textChars := by
    intro groups hmem
    rcases mem_joinedGroups hmem with rfl | ⟨n, hn, rfl⟩
    · decide
    · exact hdigits n hn
  cases a with
  | v4 octets =>
      rw [text, toList_octetsText] at hc
      exact hoctets _ hc
  | v6 groups =>
      rw [text] at hc
      split at hc
      · rw [String.toList_append, toList_octetsText] at hc
        rcases List.mem_append.mp hc with hfront | hoctet
        · have hmapped : ∀ c ∈ "::ffff:".toList, c ∈ textChars :=
            List.all_iff_forall_prop.mp (by decide)
          exact hmapped c hfront
        · exact hoctets _ hoctet
      · rw [shortenedText] at hc
        dsimp only at hc
        split at hc
        · simp only [String.toList_append, toList_groupsText, List.mem_append] at hc
          rcases hc with (hbefore | hgap) | hafter
          · exact hgroups _ hbefore
          · have hcolons : ∀ c ∈ "::".toList, c ∈ textChars :=
              List.all_iff_forall_prop.mp (by decide)
            exact hcolons c hgap
          · exact hgroups _ hafter
        · rw [toList_groupsText] at hc
          exact hgroups _ hc

end Address

end WalletEvents
