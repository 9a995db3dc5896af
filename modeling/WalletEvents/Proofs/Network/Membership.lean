import WalletEvents.Proofs.Network.Senders

/-!
# The addresses of a network

A network has the addresses of its version whose leading bits are those of its own address.
`Cidr.Covers` says so bit by bit; this module says which sets of addresses come about.

* Two networks that have one address in common are nested: the one with fewer leading bits
  has all addresses of the other one (`Cidr.Covers.of_common`). So the last bits of the
  address of a network do not matter, and networks that are not nested have no address in
  common.
* With no leading bit a network has all addresses of its version, and with all of them it
  has its own address only, since the bits determine the address (`Address.eq_of_bits`).

**Machine words.** The leading bits can be compared under a mask as well. `Cidr.mask?` computes
the mask in words of the width of the address, where a difference below zero has no value and
a shift by the whole width has none either. A network never has more leading bits than its
address has bits, so there always is a mask (`Cidr.exists_mask`).

`Cidr.membership` puts this together.
-/

namespace WalletEvents

namespace Address

theorem sameVersion_iff {a b : Address} :
    a.sameVersion b = true ↔ a.width = b.width := by
  cases a <;> cases b <;> simp [sameVersion, width]

theorem sameVersion_self (a : Address) :
    a.sameVersion a = true :=
  sameVersion_iff.mpr rfl

/-- The digits of a number are determined by it, if their count is known. -/
theorem eq_of_foldl_eq
    {α : Type} {value : α → Nat} {bits : Nat}
    (hlt : ∀ a, value a < 2 ^ bits) (hinj : Function.Injective value)
    {digits others : List α} {n m : Nat} (hlength : digits.length = others.length)
    (h : digits.foldl (fun n a => n * 2 ^ bits + value a) n =
      others.foldl (fun n a => n * 2 ^ bits + value a) m) :
    n = m ∧ digits = others := by
  induction digits generalizing others n m with
  | nil =>
      obtain rfl : others = [] := List.length_eq_zero_iff.mp hlength.symm
      exact ⟨h, rfl⟩
  | cons a rest ih =>
      cases others with
      | nil => cases hlength
      | cons b others =>
          obtain ⟨hfirst, rfl⟩ := ih (Nat.succ.inj hlength) h
          have hlast := congrArg (· % 2 ^ bits) hfirst
          simp only [Nat.mul_add_mod_of_lt (hlt _)] at hlast
          dsimp only at hfirst
          rw [hlast, Nat.add_right_cancel_iff] at hfirst
          rw [hinj hlast, Nat.eq_of_mul_eq_mul_right (Nat.two_pow_pos bits) hfirst]
          exact ⟨rfl, rfl⟩

/-- The number determines an address of a given version. -/
theorem eq_of_number_eq
    {a b : Address} (hversion : a.sameVersion b = true) (h : a.number = b.number) :
    a = b := by
  cases a with
  | v4 octets =>
      cases b with
      | v4 octets' =>
          have hlists := eq_of_foldl_eq (fun b : UInt8 => (b.toNat_lt : b.toNat < 2 ^ 8))
            (fun _ _ => UInt8.toNat_inj.mp) (by simp) h
          rw [Vector.toList_inj.mp hlists.2]
      | v6 _ => cases hversion
  | v6 groups =>
      cases b with
      | v4 _ => cases hversion
      | v6 groups' =>
          have hlists := eq_of_foldl_eq (fun b : UInt16 => (b.toNat_lt : b.toNat < 2 ^ 16))
            (fun _ _ => UInt16.toNat_inj.mp) (by simp) h
          rw [Vector.toList_inj.mp hlists.2]

/-- The bits determine an address of a given version. -/
theorem eq_of_bits
    {a b : Address} (hversion : a.sameVersion b = true)
    (h : ∀ place < a.width, a.bit place = b.bit place) :
    a = b := by
  have hwidth := width_eq_of_sameVersion hversion
  have hb := b.number_lt
  unfold bit at h
  rw [← hwidth] at h hb
  have hnumber := (shiftRight_eq_iff a.number_lt hb (Nat.le_refl _)).mpr h
  rw [Nat.sub_self] at hnumber
  exact eq_of_number_eq hversion hnumber

end Address

namespace Cidr

variable {c d : Cidr} {ip other : Address}

theorem covers_self (c : Cidr) :
    c.Covers c.address :=
  ⟨Address.sameVersion_self _, fun _ _ => rfl⟩

/-- With one address in common, the network with fewer leading bits has all addresses of the other. -/
theorem Covers.of_common
    (hc : c.Covers ip) (hd : d.Covers ip) (hlength : c.length ≤ d.length) (h : d.Covers other) :
    c.Covers other where
  version := by
    have hcwidth := Address.width_eq_of_sameVersion hc.version
    have hdwidth := Address.width_eq_of_sameVersion hd.version
    have hwidth := Address.width_eq_of_sameVersion h.version
    exact Address.sameVersion_iff.mpr (by rw [hcwidth, ← hdwidth, hwidth])
  bits := by
    intro place hplace
    have hplace' : place < d.length := Nat.lt_of_lt_of_le hplace hlength
    calc c.address.bit place
        = ip.bit place := hc.bits place hplace
      _ = d.address.bit place := (hd.bits place hplace').symm
      _ = other.bit place := h.bits place hplace'

theorem covers_iff_of_common
    (hc : c.Covers ip) (hd : d.Covers ip) (hlength : d.length = c.length) (other : Address) :
    d.Covers other ↔ c.Covers other :=
  ⟨hc.of_common hd (Nat.le_of_eq hlength.symm), hd.of_common hc (Nat.le_of_eq hlength)⟩

theorem covers_iff_of_length_zero (h : c.length = 0) :
    c.Covers ip ↔ c.address.sameVersion ip = true := by
  refine ⟨Covers.version, fun hversion => ⟨hversion, fun place hplace => ?_⟩⟩
  rw [h] at hplace
  exact absurd hplace (Nat.not_lt_zero place)

theorem covers_iff_of_length_full (h : c.length = c.address.width) :
    c.Covers ip ↔ ip = c.address := by
  constructor
  · intro hcovers
    exact (Address.eq_of_bits hcovers.version (h ▸ hcovers.bits)).symm
  · rintro rfl
    exact c.covers_self

/-- The difference of two words, unless it goes below zero. -/
def wordDifference? (a b : Nat) : Option Nat := if b ≤ a then some (a - b) else none

/-- A word of ones shifted to the left, unless by the whole width or more. -/
def shiftedOnes? (width shift : Nat) : Option Nat :=
  if shift < width then some ((2 ^ width - 1) <<< shift % 2 ^ width) else none

/-- The mask of the leading bits, in a word of the width of the address. -/
def mask? (c : Cidr) : Option Nat :=
  (wordDifference? c.address.width c.length).map fun rest =>
    (shiftedOnes? c.address.width rest).getD 0

theorem testBit_shiftedOnes (width shift i : Nat) :
    ((shiftedOnes? width shift).getD 0).testBit i = (decide (shift ≤ i) && decide (i < width)) := by
  unfold shiftedOnes?
  split
  · next hshift =>
    rw [Option.getD_some, Nat.testBit_mod_two_pow, Nat.testBit_shiftLeft, Nat.testBit_two_pow_sub_one]
    by_cases hi : i < width <;> by_cases hle : shift ≤ i <;> simp [hi, hle]
    omega
  · next hshift =>
    simp
    omega

/-- There is a mask, since a network has no more leading bits than its address has bits. -/
theorem exists_mask (c : Cidr) :
    ∃ mask, c.mask? = some mask ∧ ∀ i, mask.testBit i =
      (decide (c.address.width - c.length ≤ i) && decide (i < c.address.width)) := by
  refine ⟨_, ?_, testBit_shiftedOnes _ _⟩
  rw [mask?, wordDifference?, if_pos c.length_le, Option.map_some]

/-- Under a mask of the leading bits, numbers are the same if their leading bits are. -/
theorem land_mask_eq_iff
    {a b mask width length : Nat} (ha : a < 2 ^ width) (hb : b < 2 ^ width) (hlength : length ≤ width)
    (hmask : ∀ i, mask.testBit i = (decide (width - length ≤ i) && decide (i < width))) :
    a &&& mask = b &&& mask ↔ a >>> (width - length) = b >>> (width - length) := by
  rw [shiftRight_eq_iff ha hb hlength]
  constructor
  · intro h place hplace
    have hbit := congrArg (·.testBit (width - 1 - place)) h
    have hone : mask.testBit (width - 1 - place) = true := by
      rw [hmask]
      simp
      omega
    simpa [Nat.testBit_and, hone] using hbit
  · intro h
    apply Nat.eq_of_testBit_eq
    intro i
    rw [Nat.testBit_and, Nat.testBit_and, hmask]
    by_cases hi : width - length ≤ i ∧ i < width
    · have hplace := h (width - 1 - i) (by omega)
      rw [show width - 1 - (width - 1 - i) = i by omega] at hplace
      rw [hplace]
    · have hzero : (decide (width - length ≤ i) && decide (i < width)) = false := by
        simpa [← Bool.not_eq_true] using hi
      rw [hzero, Bool.and_false, Bool.and_false]

theorem contains_iff_land_mask
    {mask : Nat} (hmask : ∀ i, mask.testBit i =
      (decide (c.address.width - c.length ≤ i) && decide (i < c.address.width))) :
    c.contains ip = true ↔
      c.address.sameVersion ip = true ∧ c.address.number &&& mask = ip.number &&& mask := by
  rw [contains, Bool.and_eq_true, beq_iff_eq]
  refine and_congr_right fun hversion => ?_
  have hwidth := Address.width_eq_of_sameVersion hversion
  have hip := ip.number_lt
  rw [← hwidth] at hip
  rw [← hwidth, land_mask_eq_iff c.address.number_lt hip c.length_le hmask]

/-- **Which addresses a network has.** -/
theorem membership (c : Cidr) :
    (∃ mask, c.mask? = some mask ∧ ∀ ip, c.contains ip = true ↔
      c.address.sameVersion ip = true ∧ c.address.number &&& mask = ip.number &&& mask) ∧
    (∀ ip, c.contains ip = true ↔
      c.address.sameVersion ip = true ∧ ∀ place < c.length, c.address.bit place = ip.bit place) ∧
    (c.length = 0 → ∀ ip, c.contains ip = c.address.sameVersion ip) ∧
    (c.length = c.address.width → ∀ ip, c.contains ip = true ↔ ip = c.address) ∧
    (∀ d : Cidr, d.length = c.length → c.contains d.address = true →
      ∀ ip, d.contains ip = c.contains ip) ∧
    (∀ d : Cidr, d.address = c.address → c.length ≤ d.length →
      ∀ ip, d.contains ip = true → c.contains ip = true) ∧
    ∀ d : Cidr, (∀ ip, ¬ (c.contains ip = true ∧ d.contains ip = true)) ∨
      (∀ ip, c.contains ip = true → d.contains ip = true) ∨
      (∀ ip, d.contains ip = true → c.contains ip = true) := by
  refine ⟨?_, fun ip => ?_, fun hzero ip => ?_, fun hfull ip => ?_, fun d hlength hcommon ip => ?_,
    fun d haddress hlength ip hip => ?_, fun d => ?_⟩
  · obtain ⟨mask, hmask, hbits⟩ := c.exists_mask
    exact ⟨mask, hmask, fun ip => contains_iff_land_mask hbits⟩
  · rw [contains_iff]
    exact ⟨fun h => ⟨h.version, h.bits⟩, fun h => ⟨h.1, h.2⟩⟩
  · rw [Bool.eq_iff_iff, contains_iff, covers_iff_of_length_zero hzero]
  · rw [contains_iff, covers_iff_of_length_full hfull]
  · rw [Bool.eq_iff_iff, contains_iff, contains_iff]
    exact covers_iff_of_common (contains_iff.mp hcommon) d.covers_self hlength ip
  · rw [contains_iff] at hip ⊢
    exact (haddress ▸ c.covers_self).of_common d.covers_self hlength hip
  · simp only [contains_iff]
    by_cases hcommon : ∃ ip, c.Covers ip ∧ d.Covers ip
    · obtain ⟨ip, hc, hd⟩ := hcommon
      rcases Nat.le_total c.length d.length with hlength | hlength
      · exact .inr (.inr fun _ => hc.of_common hd hlength)
      · exact .inr (.inl fun _ => hd.of_common hc hlength)
    · exact .inl fun ip hboth => hcommon ⟨ip, hboth⟩

/-- A network of the wallet service, named by an address in the middle of it. -/
def middleNetwork : Cidr := ⟨.v4 #v[79, 142, 24, 7], 20, by decide⟩

/-- The half of the network behind that address. -/
def halfNetwork : Cidr := ⟨.v4 #v[79, 142, 24, 0], 21, by decide⟩

/-- All addresses of the fourth version. -/
def allNetwork : Cidr := ⟨.v4 #v[127, 0, 0, 1], 0, by decide⟩

/-- One address of the sixth version. -/
def loopbackNetwork : Cidr := ⟨.v6 #v[0, 0, 0, 0, 0, 0, 0, 1], 128, by decide⟩

/-- The end of the network is in it, and it is in the half as well. -/
theorem membership_of_middle :
    middleNetwork.contains (.v4 #v[79, 142, 31, 255]) = true ∧
    (halfNetwork.contains (.v4 #v[79, 142, 31, 255]) = true ∧
      ∀ ip, halfNetwork.contains ip = true → middleNetwork.contains ip = true) ∧
    (∀ ip, allNetwork.contains ip = allNetwork.address.sameVersion ip) ∧
    (∀ ip, loopbackNetwork.contains ip = true ↔ ip = loopbackNetwork.address) ∧
    (∀ ip, Cidr.contains ⟨.v4 #v[79, 142, 16, 0], 20, by decide⟩ ip = middleNetwork.contains ip) ∧
    ∀ ip, Cidr.contains ⟨.v4 #v[79, 142, 24, 7], 32, by decide⟩ ip = true →
      middleNetwork.contains ip = true := by
  obtain ⟨-, -, -, -, hsame, hlonger, hnested⟩ := middleNetwork.membership
  obtain ⟨-, -, hall, -⟩ := allNetwork.membership
  obtain ⟨-, -, -, hone, -⟩ := loopbackNetwork.membership
  have hmiddle : middleNetwork.contains (.v4 #v[79, 142, 31, 255]) = true := by
    decide
  have hhalf : halfNetwork.contains (.v4 #v[79, 142, 31, 255]) = true := by
    decide
  refine ⟨hmiddle, ⟨hhalf, ?_⟩, hall rfl, hone rfl, hsame _ rfl (by decide),
    hlonger _ rfl (by decide)⟩
  rcases hnested halfNetwork with hdisjoint | hsubset | hsubset
  · exact absurd ⟨hmiddle, hhalf⟩ (hdisjoint _)
  · have hbegin : middleNetwork.contains (.v4 #v[79, 142, 16, 0]) = true := by
      decide
    exact absurd (hsubset _ hbegin) (by decide)
  · exact hsubset

end Cidr

end WalletEvents
