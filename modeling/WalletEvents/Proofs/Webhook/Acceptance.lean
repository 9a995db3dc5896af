import WalletEvents.Proofs.Text.Blank
import WalletEvents.Proofs.Webhook.Signature

/-!
# Which texts are accepted as a signature

A signature is 64 digits in base 16. A sender may write its letters in either case and put
blanks around it.

**Result.** `Signature.verify_exact`: nothing else is accepted. What stands between the
blanks has to be the signature that the key gives, up to the case of its letters, so a text
of another length, of odd length, or with a character that is no digit is rejected. The key
may have any length.
-/

namespace WalletEvents

theorem Sha256.length_digest (message : List UInt8) :
    (digest message).length = 32 := by
  simp [digest, State.bytes, wordBytes]

theorem Hmac.length_code (key message : List UInt8) :
    (code key message).length = 32 :=
  Sha256.length_digest _

namespace Signature

theorem length_sign (key : List UInt8) (text : String) :
    (sign key text).toList.length = 64 := by
  rw [sign, Hex.length_encode, Hmac.length_code]

/-- A signature has only small letters. -/
theorem toLower_of_mem_sign
    {key : List UInt8} {text : String} {c : Char} (hc : c ∈ (sign key text).toList) :
    c.toLower = c := by
  obtain ⟨n, hn, rfl⟩ := Hex.digit_mem_encode hc
  exact Hex.toLower_digit hn

theorem map_toLower_sign (key : List UInt8) (text : String) :
    (sign key text).toList.map Char.toLower = (sign key text).toList :=
  (List.map_congr_left fun _ hc => toLower_of_mem_sign hc).trans (List.map_id _)

/-- What stands between the blanks is the signature, up to the case of its letters. -/
theorem verify_iff {key : List UInt8} {text signature : String} :
    verify key text signature = true ↔
      SameLetters (trimBlanks signature.toList) (sign key text).toList := by
  have hdecoded : verify key text signature = true ↔
      Hex.decode? (trimText signature) = some (Hmac.code key (Utf8.encode text)) := by
    unfold verify
    cases Hex.decode? (trimText signature) with
    | none => simp
    | some code => rw [beq_iff_eq, Option.some.injEq, eq_comm]
  rw [hdecoded, Hex.decode?_eq_some_iff, trimText, String.toList_ofList, SameLetters,
    map_toLower_sign]
  rfl

theorem verify_iff_of_trimmed
    {key : List UInt8} {text signature : String} {inner : List Char}
    (h : IsTrimmed signature.toList inner) :
    verify key text signature = true ↔ SameLetters inner (sign key text).toList := by
  rw [verify_iff, trimBlanks_eq_iff.mpr h]

theorem length_of_sameLetters
    {key : List UInt8} {text : String} {inner : List Char}
    (h : SameLetters inner (sign key text).toList) :
    inner.length = 64 := by
  have hlength := congrArg List.length h
  rwa [List.length_map, List.length_map, length_sign] at hlength

theorem mem_digits_of_sameLetters
    {key : List UInt8} {text : String} {inner : List Char} {c : Char}
    (h : SameLetters inner (sign key text).toList) (hc : c ∈ inner) :
    c ∈ Hex.digits := by
  have hmem : c.toLower ∈ (sign key text).toList := by
    rw [← map_toLower_sign, ← h]
    exact List.mem_map_of_mem hc
  obtain ⟨n, hn, hlower⟩ := Hex.digit_mem_encode hmem
  exact Hex.mem_digits_of_toLower hn hlower

/-- **Exactly the signature of a text is accepted**, with any blanks around it and its letters in either
case. -/
theorem verify_exact (key : List UInt8) (text : String) :
    (∀ signature, verify key text signature = true ↔
      ∃ inner, IsTrimmed signature.toList inner ∧ SameLetters inner (sign key text).toList) ∧
    ((sign key text).toList.length = 64 ∧
      ∀ c ∈ (sign key text).toList, c ∈ "0123456789abcdef".toList) ∧
    verify key text (sign key text) = true ∧
    ∀ signature inner, IsTrimmed signature.toList inner →
      inner.length % 2 = 1 ∨ inner.length ≠ 64 ∨ (∃ c ∈ inner, c ∉ Hex.digits) →
      verify key text signature = false := by
  refine ⟨fun signature => ?_, ⟨length_sign key text, fun c hc => ?_⟩, verify_self key text,
    fun signature inner htrimmed hwrong => ?_⟩
  · constructor
    · intro h
      exact ⟨_, trimBlanks_eq_iff.mp rfl, verify_iff.mp h⟩
    · rintro ⟨inner, htrimmed, hsame⟩
      exact (verify_iff_of_trimmed htrimmed).mpr hsame
  · have hsmall : ∀ n < 16, Hex.digit n ∈ "0123456789abcdef".toList := by
      decide
    obtain ⟨n, hn, rfl⟩ := Hex.digit_mem_encode hc
    exact hsmall n hn
  · rw [Bool.eq_false_iff]
    intro hverify
    have hsame := (verify_iff_of_trimmed htrimmed).mp hverify
    have hlength := length_of_sameLetters hsame
    rcases hwrong with hodd | hother | ⟨c, hc, hdigit⟩
    · omega
    · exact hother hlength
    · exact hdigit (mem_digits_of_sameLetters hsame hc)

/-- A key that is longer than a block of the digest. -/
def longKey : List UInt8 := List.replicate 65 107

/-- The signature under the long key with capital letters and blanks, and a digit less. -/
theorem verify_exact_of_longKey :
    verify longKey "643|1.00"
      "  8EF7C21113F62EFFC38A3B1F08E21B2B122869EB8E5D0473C4806CA29DAB63DC\n" = true ∧
    verify longKey "643|1.00"
      "8ef7c21113f62effc38a3b1f08e21b2b122869eb8e5d0473c4806ca29dab63d" = false := by
  obtain ⟨haccepted, -, -, hrejected⟩ := verify_exact longKey "643|1.00"
  constructor
  · refine (haccepted _).mpr
      ⟨"8EF7C21113F62EFFC38A3B1F08E21B2B122869EB8E5D0473C4806CA29DAB63DC".toList,
        trimBlanks_eq_iff.mp (by decide), ?_⟩
    unfold SameLetters
    decide +kernel
  · exact hrejected _ _ (trimBlanks_eq_iff.mp rfl) (.inl (by decide))

end Signature

end WalletEvents
