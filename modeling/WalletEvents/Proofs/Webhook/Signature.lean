import WalletEvents.Proofs.Text.Hex
import WalletEvents.Proofs.Text.Utf8
import WalletEvents.Webhook.Receiver

/-!
# Signatures that are verified

A text carries the signature that a key gives it, and the signature of a bill
arrives unchanged in the header that it is sent in.
-/

namespace WalletEvents

namespace Signature

theorem sign_visible
    {key : List UInt8} {text : String} {c : Char} (hc : c ∈ (sign key text).toList) :
    32 ≤ c.toNat ∧ c.toNat < 127 ∧ isBlank c = false := by
  obtain ⟨n, hn, rfl⟩ := Hex.digit_mem_encode hc
  exact Hex.digit_visible hn

/-- A signature of one text is one of another text exactly if both have the same code. -/
theorem verify_sign_iff {key : List UInt8} {text signed : String} :
    verify key text (sign key signed) = true ↔
      Hmac.code key (Utf8.encode text) = Hmac.code key (Utf8.encode signed) := by
  unfold verify
  rw [trimText_of_visible fun c hc => (sign_visible hc).2.2]
  unfold sign
  rw [Hex.decode?_encode]
  simp

/-- The signature of a text is verified under the key that gave it. -/
theorem verify_self (key : List UInt8) (text : String) :
    verify key text (sign key text) = true :=
  verify_sign_iff.mpr rfl

/-- Texts that have one signature have the same code. -/
theorem code_eq_of_verify
    {key : List UInt8} {text other signature : String}
    (h : verify key text signature = true) (hother : verify key other signature = true) :
    Hmac.code key (Utf8.encode text) = Hmac.code key (Utf8.encode other) := by
  unfold verify at h hother
  cases hdecoded : Hex.decode? (trimText signature) with
  | none => simp [hdecoded] at h
  | some code =>
      rw [hdecoded, beq_iff_eq] at h hother
      exact h.trans hother.symm

end Signature

/-- A notice of a payment carries the signature of its signed text, if it has one. -/
theorem PaymentNotice.verify_iff {n : PaymentNotice} {key : List UInt8} :
    n.verify key = true ↔
      ∃ text, n.payment.signedText? = some text ∧ Signature.verify key text n.hash = true := by
  rw [verify]
  cases n.payment.signedText? with
  | none => simp
  | some text => simp

/-- A visible text is read off the bytes of a header value. -/
theorem headerText?_encode
    {text : String} (h : ∀ c ∈ text.toList, 32 ≤ c.toNat ∧ c.toNat < 127) :
    Http.headerText? (Utf8.encode text) = some text.toList := by
  have hbyte : ∀ c ∈ text.toList, (UInt8.ofNat c.toNat).toNat = c.toNat := by
    intro c hc
    obtain ⟨-, hlt⟩ := h c hc
    simp
    omega
  have hbytes : Utf8.encode text = text.toList.map fun c => UInt8.ofNat c.toNat := by
    rw [Utf8.encode_eq_bytes, Utf8.bytes, List.map_eq_flatMap]
    apply List.flatMap_congr
    intro c hc
    obtain ⟨-, hlt⟩ := h c hc
    exact Utf8.utf8EncodeChar_of_ascii (by omega)
  have htext : (Utf8.encode text).all Http.isTextByte = true := by
    rw [hbytes, List.all_map, List.all_eq_true]
    intro c hc
    obtain ⟨hle, hlt⟩ := h c hc
    simp [Http.isTextByte, UInt8.le_iff_toNat_le, UInt8.lt_iff_toNat_lt,
      -UInt8.toNat_ofNat', hbyte c hc, hle, hlt]
  have hchars : (text.toList.map fun c => UInt8.ofNat c.toNat).map
      (fun b => Char.ofNat b.toNat) = text.toList := by
    rw [List.map_map]
    refine (List.map_congr_left ?_).trans (List.map_id _)
    intro c hc
    simp only [Function.comp_apply, hbyte c hc, Char.ofNat_toNat, id_eq]
  rw [Http.headerText?, if_pos htext, hbytes, hchars]

/-- The signature of a bill is read off its header. -/
theorem billSignature_of_sign (key : List UInt8) (text : String) (others : List Http.Header) :
    billSignature ((billSignatureHeader, Utf8.encode (Signature.sign key text)) :: others) =
      Signature.sign key text := by
  have hheader : Http.header? billSignatureHeader.toLower
      ((billSignatureHeader, Utf8.encode (Signature.sign key text)) :: others) =
        some (Utf8.encode (Signature.sign key text)) := by
    unfold Http.header?
    rw [List.find?_cons_of_pos (by simp)]
    rfl
  have hvisible : ∀ c ∈ (Signature.sign key text).toList, 32 ≤ c.toNat ∧ c.toNat < 127 :=
    fun c hc => ⟨(Signature.sign_visible hc).1, (Signature.sign_visible hc).2.1⟩
  unfold billSignature
  rw [hheader, Option.bind_some, headerText?_encode hvisible, Option.getD_some,
    String.ofList_toList]

end WalletEvents
