import WalletEvents.Proofs.Json.Tokens
import WalletEvents.Proofs.Webhook.Joined
import WalletEvents.Proofs.Webhook.Signature
import Mathlib.Data.List.Basic
import Mathlib.Data.Set.Function

/-!
# What a signature of a payment vouches for

A notice of a payment is signed over a text that is made of some of its fields,
and the payment itself says which. So a signature vouches for the text and not
for the fields:

* another payment that names other fields may have the same text;
* fields are joined by vertical bars, and a bar inside a field looks like one
  between two fields.

**Result.** `PaymentNotice.verify_of_genuine` says that a notice with the
signature of a genuine one is accepted exactly if both have the same text. If
both sign the usual fields, the sums, the types, and the accounts and the
identifiers joined by a bar are the same, and so are the accounts and the
identifiers themselves, if there is no bar in those of the genuine payment.
-/

namespace WalletEvents

namespace Json

namespace Number

/-- There is no bar in the text of a number. -/
theorem bar_not_mem_text (n : Number) :
    '|' ∉ n.text.toList := by
  intro hbar
  rw [toList_text] at hbar
  have hnumeral := Token.isNumeralChar_of_mem_chars n.wellFormed_numeral hbar
  revert hnumeral
  decide

theorem fits_toInt (i : Int64) : -2 ^ 63 ≤ i.toInt ∧ i.toInt < 2 ^ 64 :=
  ⟨i.le_toInt, Int.lt_of_lt_of_le i.toInt_lt (by decide)⟩

/-- The number of an integer of 64 bits. -/
def ofInt64 (i : Int64) : Number := .integer i.toInt (fits_toInt i)

theorem ofInt64_injective :
    Function.Injective ofInt64 := by
  intro i j h
  exact Int64.toInt_inj.mp (Number.integer.inj h)

end Number

end Json

namespace NoticePayment

/-- The names of the usual signed fields, one by one. -/
def usualFieldNames : List String := ["sum.currency", "sum.amount", "type", "account", "txnId"]

/-- The payment names the usual fields as its signed ones, or it names none. -/
def SignsUsualFields (p : NoticePayment) : Prop := p.signFieldNames = usualFieldNames

/-- The written forms of the usual signed fields. -/
def usualFields (p : NoticePayment) : List String :=
  [toString p.sum.currency.toInt, p.sum.amount.text, Named.name p.type, p.account, p.txnId]

variable {p q : NoticePayment}

theorem SignsUsualFields.of_none
    (h : p.signFields = none) :
    p.SignsUsualFields := by
  unfold SignsUsualFields signFieldNames signFieldList
  rw [h]
  decide

theorem signedText?_of_usual
    (h : p.SignsUsualFields) :
    p.signedText? = some (Signature.joined p.usualFields) := by
  unfold signedText?
  rw [h]
  rfl

theorem typeName_injective :
    Function.Injective (Named.name : TransactionType → String) := by
  intro type type' h
  cases type <;> cases type' <;> first | rfl | (revert h; decide)

theorem bar_not_mem_typeName (type : TransactionType) :
    '|' ∉ (Named.name type).toList := by
  cases type <;> decide

/-- Payments with the same text of their usual fields have the same sum and the same type, and the
same account and identifier, joined by a bar. -/
theorem eq_of_joined_usualFields
    (h : Signature.joined p.usualFields = Signature.joined q.usualFields) :
    p.sum = q.sum ∧ p.type = q.type ∧
      p.account ++ "|" ++ p.txnId = q.account ++ "|" ++ q.txnId := by
  rw [usualFields, usualFields] at h
  obtain ⟨hcurrency, h⟩ := Signature.joined_cons_inj (Signature.aligned_of_not_mem
    (Json.Number.ofInt64 p.sum.currency).bar_not_mem_text
    (Json.Number.ofInt64 q.sum.currency).bar_not_mem_text) h rfl
  obtain ⟨hamount, h⟩ := Signature.joined_cons_inj (Signature.aligned_of_not_mem
    p.sum.amount.bar_not_mem_text q.sum.amount.bar_not_mem_text) h rfl
  obtain ⟨htype, h⟩ := Signature.joined_cons_inj (Signature.aligned_of_not_mem
    (bar_not_mem_typeName p.type) (bar_not_mem_typeName q.type)) h rfl
  rw [Signature.joined_pair, Signature.joined_pair] at h
  have hcurrency : p.sum.currency = q.sum.currency :=
    Json.Number.ofInt64_injective (Json.Number.text_injective hcurrency)
  have hamount : p.sum.amount = q.sum.amount := Json.Number.text_injective hamount
  refine ⟨?_, typeName_injective htype, h⟩
  cases hp : p.sum
  cases hq : q.sum
  simp_all

/-- Without a bar in the account and the identifier of the one payment, those of the other one are
the same. -/
theorem eq_of_joined_by_bar
    {account txnId account' txnId' : String}
    (haccount : '|' ∉ account.toList) (htxnId : '|' ∉ txnId.toList)
    (h : account' ++ "|" ++ txnId' = account ++ "|" ++ txnId) :
    account' = account ∧ txnId' = txnId := by
  have hchars : account.toList ++ '|' :: txnId.toList = account'.toList ++ '|' :: txnId'.toList := by
    simpa using (congrArg String.toList h).symm
  obtain ⟨ha, -, ht⟩ := (List.append_cons_inj_of_notMem haccount htxnId).mp hchars
  exact ⟨(String.toList_inj.mp ha).symm, (String.toList_inj.mp ht).symm⟩

end NoticePayment

/-- The text that a signature of one of the notices is about. -/
def PaymentNotice.signedTexts (n m : PaymentNotice) : Set String :=
  {text | n.payment.signedText? = some text ∨ m.payment.signedText? = some text}

/-- **What the signature of a genuine payment vouches for.**

A notice that carries the signature of a genuine one is accepted exactly if it has the text of the
genuine one. If both sign the usual fields, it has the same sum, the same type, and the same account
and identifier, joined by a bar; without a bar in the genuine ones they are the same one by one. -/
theorem PaymentNotice.verify_of_genuine
    (key : List UInt8) (genuine n : PaymentNotice) {text : String}
    (htext : genuine.payment.signedText? = some text)
    (hsigned : genuine.hash = Signature.sign key text) (hhash : n.hash = genuine.hash)
    (hcode : Set.InjOn (fun text => Hmac.code key (Utf8.encode text)) (genuine.signedTexts n)) :
    (n.verify key = true ↔ n.payment.signedText? = genuine.payment.signedText?) ∧
    (n.verify key = true → genuine.payment.SignsUsualFields → n.payment.SignsUsualFields →
      n.payment.sum = genuine.payment.sum ∧ n.payment.type = genuine.payment.type ∧
      n.payment.account ++ "|" ++ n.payment.txnId =
        genuine.payment.account ++ "|" ++ genuine.payment.txnId ∧
      ('|' ∉ genuine.payment.account.toList → '|' ∉ genuine.payment.txnId.toList →
        n.payment.account = genuine.payment.account ∧
        n.payment.txnId = genuine.payment.txnId)) := by
  have haccepted : n.verify key = true ↔ n.payment.signedText? = genuine.payment.signedText? := by
    rw [verify, htext]
    cases hn : n.payment.signedText? with
    | none => simp
    | some other =>
        dsimp only
        rw [hhash, hsigned, Signature.verify_sign_iff, Option.some.injEq]
        exact hcode.eq_iff (Or.inr hn) (Or.inl htext)
  refine ⟨haccepted, fun hverify husual husual' => ?_⟩
  have hsame := haccepted.mp hverify
  rw [NoticePayment.signedText?_of_usual husual, NoticePayment.signedText?_of_usual husual'] at hsame
  obtain ⟨hsum, htype, hjoined⟩ :=
    NoticePayment.eq_of_joined_usualFields (Option.some.inj hsame)
  exact ⟨hsum, htype, hjoined, fun haccount htxnId =>
    NoticePayment.eq_of_joined_by_bar haccount htxnId hjoined⟩

/-- A key of two letters. -/
def wordKey : List UInt8 := [107, 49]

/-- A payment of one rouble, which names no signed fields. -/
def roublePayment : NoticePayment where
  txnId := "13353941550"
  date := ⟨⟨2018, 6, 27, by decide⟩, 49140, 0, 180, by decide⟩
  type := .incoming
  status := .success
  errorCode := none
  personId := none
  account := "+78000008000"
  comment := none
  provider := none
  sum := ⟨.ofInt64 1, 643⟩
  commission := none
  total := none
  signFields := none

/-- The text of the payment of one rouble. -/
def roubleText : String := "643|1|IN|+78000008000|13353941550"

/-- A notice of a payment with the signature of a text. -/
def noticeSigned (text : String) (p : NoticePayment) : PaymentNotice :=
  ⟨"1", "2", p, Signature.sign wordKey text, "1.0.0", false⟩

theorem signedText?_roublePayment :
    roublePayment.signedText? = some roubleText := by
  decide +kernel

/-- The payment of one rouble with a comment, which is not signed. -/
def remarkedPayment : NoticePayment := { roublePayment with comment := some "again" }

theorem injOn_of_remarked :
    Set.InjOn (fun text => Hmac.code wordKey (Utf8.encode text))
      ((noticeSigned roubleText roublePayment).signedTexts
        (noticeSigned roubleText remarkedPayment)) := by
  have hone : ∀ text, text ∈ (noticeSigned roubleText roublePayment).signedTexts
      (noticeSigned roubleText remarkedPayment) → text = roubleText := by
    rintro text (h | h)
    · exact Option.some.inj (h.symm.trans signedText?_roublePayment)
    · exact Option.some.inj (h.symm.trans signedText?_roublePayment)
  intro text htext other hother _
  exact (hone text htext).trans (hone other hother).symm

theorem PaymentNotice.verify_of_genuine_of_remarked :
    roublePayment.signedText? = some roubleText ∧
    Set.InjOn (fun text => Hmac.code wordKey (Utf8.encode text))
      ((noticeSigned roubleText roublePayment).signedTexts
        (noticeSigned roubleText remarkedPayment)) ∧
    (noticeSigned roubleText remarkedPayment).verify wordKey = true ∧
    remarkedPayment.account = roublePayment.account ∧
    remarkedPayment.txnId = roublePayment.txnId := by
  obtain ⟨haccepted, hfields⟩ :=
    PaymentNotice.verify_of_genuine wordKey (noticeSigned roubleText roublePayment)
      (noticeSigned roubleText remarkedPayment) signedText?_roublePayment rfl rfl injOn_of_remarked
  have hverify : (noticeSigned roubleText remarkedPayment).verify wordKey = true :=
    haccepted.mpr rfl
  obtain ⟨-, -, -, hsame⟩ := hfields hverify (.of_none rfl) (.of_none rfl)
  exact ⟨signedText?_roublePayment, injOn_of_remarked, hverify, hsame (by decide) (by decide)⟩

/-- A large payment of dollars, which has put the text of the other one into its account and names
only that as signed. -/
def forgedPayment : NoticePayment :=
  { roublePayment with
    txnId := "1"
    type := .outgoing
    account := roubleText
    sum := ⟨.ofInt64 1000000, 840⟩
    signFields := some "account" }

/-- A payment with a bar in its account. -/
def barredPayment : NoticePayment := { roublePayment with account := "a|b", txnId := "c" }

/-- A payment with this bar in its identifier. -/
def shiftedPayment : NoticePayment := { roublePayment with account := "a", txnId := "b|c" }

/-- A signature fits payments of which it says nothing: one that names other fields as signed, and
one whose account ends at another bar. -/
theorem PaymentNotice.signature_fits_other_payments :
    (roublePayment.SignsUsualFields ∧ roublePayment.signedText? = some roubleText ∧
      (noticeSigned roubleText roublePayment).hash = Signature.sign wordKey roubleText ∧
      (noticeSigned roubleText forgedPayment).hash =
        (noticeSigned roubleText roublePayment).hash ∧
      forgedPayment.signedText? = some roubleText ∧
      (noticeSigned roubleText forgedPayment).verify wordKey = true ∧
      forgedPayment.sum.currency ≠ roublePayment.sum.currency ∧
      forgedPayment.sum.amount ≠ roublePayment.sum.amount ∧
      forgedPayment.type ≠ roublePayment.type ∧
      forgedPayment.account ≠ roublePayment.account ∧
      forgedPayment.txnId ≠ roublePayment.txnId) ∧
    (barredPayment.SignsUsualFields ∧ barredPayment.signedText? = some "643|1|IN|a|b|c" ∧
      shiftedPayment.SignsUsualFields ∧ shiftedPayment.signedText? = some "643|1|IN|a|b|c" ∧
      (noticeSigned "643|1|IN|a|b|c" shiftedPayment).verify wordKey = true ∧
      shiftedPayment.account ≠ barredPayment.account ∧
      shiftedPayment.txnId ≠ barredPayment.txnId) := by
  have hverify : ∀ text p, p.signedText? = some text →
      (noticeSigned text p).verify wordKey = true := by
    intro text p h
    exact PaymentNotice.verify_iff.mpr ⟨text, h, Signature.verify_self _ _⟩
  have hforged : forgedPayment.signedText? = some roubleText := by
    decide +kernel
  have hbarred : barredPayment.signedText? = some "643|1|IN|a|b|c" := by
    decide +kernel
  have hshifted : shiftedPayment.signedText? = some "643|1|IN|a|b|c" := by
    decide +kernel
  refine ⟨⟨.of_none rfl, signedText?_roublePayment, rfl, rfl, hforged, hverify _ _ hforged, ?_⟩,
    ⟨.of_none rfl, hbarred, .of_none rfl, hshifted, hverify _ _ hshifted, ?_⟩⟩
  · decide
  · decide

end WalletEvents
