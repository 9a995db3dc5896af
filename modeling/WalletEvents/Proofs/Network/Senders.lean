import WalletEvents.Network.AllowList
import WalletEvents.Proofs.Text.Blank

/-!
# Networks and senders

What it means that an address lies in a network, and that a request was sent from an
address, without a word on how either is computed.

* `Cidr.Covers`: the address is of the network's version and has its leading bits.
* `Http.SentFrom`: the proxies of the request name the address first, or they name
  none and it is the other end of the connection.

`Cidr.contains_iff` and `sender?_eq_some_iff` say that this is what is computed.
-/

namespace WalletEvents

namespace Address

/-- The bit at a place, counted from the first one. -/
def bit (a : Address) (place : Nat) : Bool := a.number.testBit (a.width - 1 - place)

/-- Digits in a base that is a power of two fill so many bits. -/
theorem foldl_lt_two_pow
    {α : Type} (value : α → Nat) (bits : Nat) (h : ∀ a, value a < 2 ^ bits)
    (digits : List α) (n width : Nat) (hn : n < 2 ^ width) :
    digits.foldl (fun n a => n * 2 ^ bits + value a) n < 2 ^ (width + bits * digits.length) := by
  induction digits generalizing n width with
  | nil => simpa using hn
  | cons a rest ih =>
      have hnext : n * 2 ^ bits + value a < 2 ^ (width + bits) := by
        have hvalue := h a
        calc n * 2 ^ bits + value a
            < n * 2 ^ bits + 2 ^ bits := by omega
          _ = (n + 1) * 2 ^ bits := by rw [Nat.succ_mul]
          _ ≤ 2 ^ width * 2 ^ bits := Nat.mul_le_mul_right _ hn
          _ = 2 ^ (width + bits) := (Nat.pow_add 2 width bits).symm
      have hrest := ih _ _ hnext
      rw [List.foldl_cons, List.length_cons, Nat.mul_succ, Nat.add_comm (bits * _), ← Nat.add_assoc]
      exact hrest

theorem number_lt (a : Address) :
    a.number < 2 ^ a.width := by
  cases a with
  | v4 octets =>
      have h := foldl_lt_two_pow UInt8.toNat 8 (fun b => b.toNat_lt)
        octets.toList 0 0 (by decide)
      rwa [Vector.length_toList] at h
  | v6 groups =>
      have h := foldl_lt_two_pow UInt16.toNat 16 (fun b => b.toNat_lt)
        groups.toList 0 0 (by decide)
      rwa [Vector.length_toList] at h

theorem width_eq_of_sameVersion {a b : Address} (h : a.sameVersion b = true) :
    a.width = b.width := by
  cases a with
  | v4 _ =>
      cases b with
      | v4 _ => rfl
      | v6 _ => cases h
  | v6 _ =>
      cases b with
      | v4 _ => cases h
      | v6 _ => rfl

end Address

/-- What is left of two numbers without their last bits is the same if their leading bits are. -/
theorem shiftRight_eq_iff
    {a b width length : Nat} (ha : a < 2 ^ width) (hb : b < 2 ^ width) (hlength : length ≤ width) :
    a >>> (width - length) = b >>> (width - length) ↔
      ∀ place < length, a.testBit (width - 1 - place) = b.testBit (width - 1 - place) := by
  constructor
  · intro h place hplace
    have hbit : width - 1 - place = width - length + (length - 1 - place) := by omega
    rw [hbit, ← Nat.testBit_shiftRight, ← Nat.testBit_shiftRight, h]
  · intro h
    apply Nat.eq_of_testBit_eq
    intro i
    rw [Nat.testBit_shiftRight, Nat.testBit_shiftRight]
    by_cases hi : i < length
    · have hbit : width - length + i = width - 1 - (length - 1 - i) := by omega
      rw [hbit]
      exact h _ (by omega)
    · have hpow : 2 ^ width ≤ 2 ^ (width - length + i) :=
        Nat.pow_le_pow_right (by decide) (by omega)
      rw [Nat.testBit_lt_two_pow (by omega), Nat.testBit_lt_two_pow (by omega)]

/-- An address lies in a network: it is of the same version and has the same leading bits. -/
structure Cidr.Covers (c : Cidr) (ip : Address) : Prop where
  version : c.address.sameVersion ip = true
  bits : ∀ place < c.length, c.address.bit place = ip.bit place

/-- **An address is found in a network** exactly if it lies in it. -/
theorem Cidr.contains_iff {c : Cidr} {ip : Address} :
    c.contains ip = true ↔ c.Covers ip := by
  have hbits : c.address.sameVersion ip = true →
      (c.address.number >>> (c.address.width - c.length) = ip.number >>> (ip.width - c.length) ↔
        ∀ place < c.length, c.address.bit place = ip.bit place) := by
    intro hversion
    have hwidth := Address.width_eq_of_sameVersion hversion
    unfold Address.bit
    rw [← hwidth]
    exact shiftRight_eq_iff c.address.number_lt (hwidth ▸ ip.number_lt) c.length_le
  rw [contains, Bool.and_eq_true, beq_iff_eq]
  constructor
  · rintro ⟨hversion, hnumber⟩
    exact ⟨hversion, (hbits hversion).mp hnumber⟩
  · rintro ⟨hversion, hplaces⟩
    exact ⟨hversion, (hbits hversion).mpr hplaces⟩

theorem AllowList.allows_iff {list : AllowList} {ip : Address} :
    list.allows ip = true ↔ ∃ network ∈ list.networks, network.Covers ip := by
  simp [allows, Cidr.contains_iff]

/-- The part of a text before the first separator. -/
structure IsFirstPart (separator : Char) (text part : List Char) : Prop where
  not_mem : separator ∉ part
  rest : part = text ∨ ∃ rest, text = part ++ separator :: rest

theorem upTo_eq_iff {separator : Char} {text part : List Char} :
    upTo separator text = part ↔ IsFirstPart separator text part := by
  unfold upTo
  constructor
  · rintro rfl
    refine ⟨fun hmem => by simpa using List.mem_takeWhile_imp hmem, ?_⟩
    cases hrest : text.dropWhile (· != separator) with
    | nil =>
        have hsplit := List.takeWhile_append_dropWhile (p := (· != separator)) (l := text)
        rw [hrest, List.append_nil] at hsplit
        exact .inl hsplit
    | cons c rest =>
        have hc : c = separator := by
          have hhead := List.head?_dropWhile_not (· != separator) text
          rw [hrest] at hhead
          simpa using hhead
        refine .inr ⟨rest, ?_⟩
        rw [hc] at hrest
        rw [← hrest, List.takeWhile_append_dropWhile]
  · rintro ⟨hnot, hrest⟩
    have hall : ∀ c ∈ part, (c != separator) = true := by
      intro c hc
      have hne : c ≠ separator := fun heq => hnot (heq ▸ hc)
      simpa using hne
    rcases hrest with rfl | ⟨rest, rfl⟩
    · exact List.takeWhile_eq_self_iff.mpr hall
    · rw [List.takeWhile_append_of_pos hall, List.takeWhile_cons_of_neg (by simp), List.append_nil]

namespace Http

/-- The value of the first header of a name. -/
inductive FirstValue (name : String) : List Header → List UInt8 → Prop
  | here {header : Header} {rest : List Header} (hname : header.1.toLower = name) :
      FirstValue name (header :: rest) header.2
  | later {header : Header} {rest : List Header} {value : List UInt8}
      (hname : header.1.toLower ≠ name) (hrest : FirstValue name rest value) :
      FirstValue name (header :: rest) value

theorem header?_eq_some_iff {name : String} {headers : List Header} {value : List UInt8} :
    header? name headers = some value ↔ FirstValue name headers value := by
  induction headers with
  | nil =>
      constructor
      · intro h
        cases h
      · intro h
        cases h
  | cons header rest ih =>
      by_cases hname : header.1.toLower = name
      · have hfound : header? name (header :: rest) = some header.2 := by
          simp [header?, hname]
        rw [hfound]
        constructor
        · rintro ⟨⟩
          exact .here hname
        · intro h
          cases h with
          | here => rfl
          | later hnot => exact absurd hname hnot
      · have hnext : header? name (header :: rest) = header? name rest := by
          simp [header?, hname]
        rw [hnext, ih]
        constructor
        · exact .later hname
        · intro h
          cases h with
          | here hyes => exact absurd hyes hname
          | later _ hrest => exact hrest

/-- The proxies of a request name an address first: the text of the first header for them has it before
the first comma, perhaps with blanks around it. -/
structure ForwardedFrom (headers : List Header) (ip : Address) : Prop where
  named : ∃ value text part inner,
    FirstValue "x-forwarded-for" headers value ∧ headerText? value = some text ∧
    IsFirstPart ',' text part ∧ IsTrimmed part inner ∧ Address.ofChars? inner = some ip

/-- A request was sent from an address: its proxies name that address, or they name none and it is the
other end of the connection. -/
inductive SentFrom (headers : List Header) (peer : Option Address) : Address → Prop
  | forwarded {ip : Address} (hnamed : ForwardedFrom headers ip) : SentFrom headers peer ip
  | direct {ip : Address} (hnone : ∀ other, ¬ ForwardedFrom headers other)
      (hpeer : peer = some ip) : SentFrom headers peer ip

end Http

theorem forwardedAddress?_eq_some_iff {headers : List Http.Header} {ip : Address} :
    forwardedAddress? headers = some ip ↔ Http.ForwardedFrom headers ip := by
  simp only [forwardedAddress?, Option.bind_eq_bind, Option.bind_eq_some_iff]
  constructor
  · rintro ⟨value, hvalue, text, htext, hip⟩
    exact ⟨value, text, _, _, Http.header?_eq_some_iff.mp hvalue, htext, upTo_eq_iff.mp rfl,
      trimBlanks_eq_iff.mp rfl, hip⟩
  · rintro ⟨value, text, part, inner, hvalue, htext, hpart, hinner, hip⟩
    refine ⟨value, Http.header?_eq_some_iff.mpr hvalue, text, htext, ?_⟩
    rw [upTo_eq_iff.mpr hpart, trimBlanks_eq_iff.mpr hinner]
    exact hip

/-- **The sender that is found** is the address that the request was sent from. -/
theorem sender?_eq_some_iff
    {headers : List Http.Header} {peer : Option Address} {ip : Address} :
    sender? headers peer = some ip ↔ Http.SentFrom headers peer ip := by
  unfold sender?
  cases hnamed : forwardedAddress? headers with
  | some other =>
      have hother := forwardedAddress?_eq_some_iff.mp hnamed
      rw [Option.some_or, ← hnamed, forwardedAddress?_eq_some_iff]
      constructor
      · exact .forwarded
      · intro h
        cases h with
        | forwarded hip => exact hip
        | direct hnone => exact absurd hother (hnone other)
  | none =>
      have hnone : ∀ other, ¬ Http.ForwardedFrom headers other := by
        intro other hother
        rw [← forwardedAddress?_eq_some_iff, hnamed] at hother
        cases hother
      rw [Option.none_or]
      constructor
      · exact .direct hnone
      · intro h
        cases h with
        | forwarded hip => exact absurd hip (hnone ip)
        | direct _ hpeer => exact hpeer

end WalletEvents
