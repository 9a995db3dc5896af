import WalletEvents.Text.Utf8
import Mathlib.Data.List.Basic

/-!
# Bytes of texts

The bytes of a text are the bytes of its characters, one after the other. They
determine the text, and a character beyond the first 128 has no byte below 128.
-/

namespace WalletEvents

/-- The bytes of an array are the elements of its data. -/
theorem byteArray_toList (bytes : ByteArray) :
    bytes.toList = bytes.data.toList := by
  have hloop : ∀ i acc,
      ByteArray.toList.loop bytes i acc = acc.reverse ++ bytes.data.toList.drop i := by
    intro i acc
    fun_induction ByteArray.toList.loop bytes i acc with
    | case1 i acc hlt ih =>
        have hlen : i < bytes.data.toList.length := by simpa using hlt
        have hget : bytes.get! i = bytes.data.toList[i] := by
          simp [ByteArray.get!, getElem!_pos bytes.data i hlt]
        rw [ih, List.drop_eq_getElem_cons hlen, hget]
        simp
    | case2 i acc hge =>
        have hlen : bytes.data.toList.length ≤ i := by simpa using hge
        simp [List.drop_eq_nil_of_le hlen]
  simpa [ByteArray.toList] using hloop 0 []

namespace Utf8

/-- The bytes of characters. -/
def bytes (text : List Char) : List UInt8 := text.flatMap String.utf8EncodeChar

theorem encode_eq_bytes (text : String) :
    encode text = bytes text.toList := by
  unfold encode
  rw [byteArray_toList, String.toUTF8_eq_toByteArray, ← String.utf8Encode_toList]
  simp [List.utf8Encode, bytes]

@[simp] theorem bytes_nil :
    bytes [] = [] := rfl

@[simp] theorem bytes_append (a b : List Char) :
    bytes (a ++ b) = bytes a ++ bytes b := by
  simp [bytes]

theorem bytes_cons (c : Char) (rest : List Char) :
    bytes (c :: rest) = String.utf8EncodeChar c ++ bytes rest := by
  simp [bytes]

/-- **Bytes of a text are read as the text.** -/
theorem decode?_encode (text : String) :
    decode? (encode text) = some text := by
  have hbytes : (⟨(encode text).toArray⟩ : ByteArray) = text.toByteArray := by
    unfold encode
    rw [byteArray_toList]
    simp
  unfold decode? String.fromUTF8?
  rw [hbytes]
  simp [text.isValidUTF8, String.fromUTF8]

theorem encode_injective :
    Function.Injective encode := by
  intro s t h
  have hs := decode?_encode s
  rw [h, decode?_encode] at hs
  exact (Option.some.inj hs).symm

theorem utf8EncodeChar_of_ascii
    {c : Char} (h : c.toNat < 128) :
    String.utf8EncodeChar c = [UInt8.ofNat c.toNat] := by
  have hle : c.val.toNat ≤ 0x7f := by
    have : c.val.toNat = c.toNat := rfl
    omega
  unfold String.utf8EncodeChar
  simp only [if_pos hle]
  rfl

theorem le_of_mem_utf8EncodeChar
    {c : Char} {b : UInt8} (h : 128 ≤ c.toNat) (hb : b ∈ String.utf8EncodeChar c) :
    128 ≤ b.toNat := by
  have hgt : ¬ c.val.toNat ≤ 0x7f := by
    have : c.val.toNat = c.toNat := rfl
    omega
  unfold String.utf8EncodeChar at hb
  simp only [if_neg hgt] at hb
  split_ifs at hb
  · simp only [List.mem_cons, List.not_mem_nil, or_false] at hb
    rcases hb with rfl | rfl <;> simp <;> omega
  · simp only [List.mem_cons, List.not_mem_nil, or_false] at hb
    rcases hb with rfl | rfl | rfl <;> simp <;> omega
  · simp only [List.mem_cons, List.not_mem_nil, or_false] at hb
    rcases hb with rfl | rfl | rfl | rfl <;> simp <;> omega

end Utf8

end WalletEvents
