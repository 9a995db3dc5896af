import WalletEvents.Proofs.Json.Bounded
import WalletEvents.Proofs.Json.Literal
import WalletEvents.Proofs.Json.Located
import WalletEvents.Proofs.Webhook.Tampering

/-!
# The literal of a signed amount

**Input.** The body of a notice of a payment, in which the amount is spelled by some literal of
a JSON number (`amountLiteral?`), and a signature of the notice. Whoever signs the notice may take
the literal of the body for the amount (`NoticePayment.literalText?`), or the text of the number
that is read from it, as the receiver does.

**Result.** `amount_signed_as_read`: the receiver takes the text of the number. For every spelling
of the literal,

* without point and exponent it is the text exactly if 64 bits hold the integer and it is not
  a negative zero;
* with a superfluous zero at the end of its decimals it never is;
* it never is if its exponent has a capital letter or no sign.

A signature over the literal is accepted exactly if the amount is not signed or the literal is the
text, as long as the codes of the two texts differ.

Each literal of a number can stand in a body (`read_literalBody`). The literal of one rouble with two
decimals is signed with one decimal (`decimals_signed_otherwise`).
-/

namespace WalletEvents

/-- The fields of a sum of money, in their order. -/
def moneyFieldNames : List String := ["amount", "currency"]

/-- The fields of the payment in a notice, in their order. -/
def paymentFieldNames : List String := ["txnId", "date", "type", "status", "errorCode", "personId",
  "account", "comment", "provider", "sum", "commission", "total", "signFields"]

/-- The fields of a notice, in their order. -/
def noticeFieldNames : List String := ["messageId", "hookId", "payment", "hash", "version", "test"]

/-- The parts of the literal that a body has for the amount of its payment. -/
def amountLiteral? (body : List UInt8) : Option Json.Numeral := do
  let notice ← JsonText.parse? body
  let payment ← notice.field? noticeFieldNames "payment"
  let sum ← payment.field? paymentFieldNames "sum"
  match ← sum.field? moneyFieldNames "amount" with
  | .number numeral => some numeral
  | _ => none

theorem PaymentNotice.exists_payment
    {n : PaymentNotice} {v : Json} (hread : PaymentNotice.read? v = some n) :
    ∃ fields, Json.fields? noticeFieldNames v = some fields ∧
      fields.required? "payment" NoticePayment.read? = some n.payment := by
  obtain ⟨fields, hfields, hread⟩ := Option.bind_eq_some_iff.mp hread
  obtain ⟨messageId, -, hread⟩ := Option.bind_eq_some_iff.mp hread
  obtain ⟨hookId, -, hread⟩ := Option.bind_eq_some_iff.mp hread
  obtain ⟨payment, hpayment, hread⟩ := Option.bind_eq_some_iff.mp hread
  obtain ⟨hash, -, hread⟩ := Option.bind_eq_some_iff.mp hread
  obtain ⟨version, -, hread⟩ := Option.bind_eq_some_iff.mp hread
  obtain ⟨test, -, hread⟩ := Option.bind_eq_some_iff.mp hread
  obtain rfl := Option.some.inj hread
  exact ⟨fields, hfields, hpayment⟩

theorem NoticePayment.exists_sum
    {p : NoticePayment} {v : Json} (hread : NoticePayment.read? v = some p) :
    ∃ fields, Json.fields? paymentFieldNames v = some fields ∧
      fields.required? "sum" Money.read? = some p.sum := by
  obtain ⟨fields, hfields, hread⟩ := Option.bind_eq_some_iff.mp hread
  obtain ⟨txnId, -, hread⟩ := Option.bind_eq_some_iff.mp hread
  obtain ⟨date, -, hread⟩ := Option.bind_eq_some_iff.mp hread
  obtain ⟨type, -, hread⟩ := Option.bind_eq_some_iff.mp hread
  obtain ⟨status, -, hread⟩ := Option.bind_eq_some_iff.mp hread
  obtain ⟨errorCode, -, hread⟩ := Option.bind_eq_some_iff.mp hread
  obtain ⟨personId, -, hread⟩ := Option.bind_eq_some_iff.mp hread
  obtain ⟨account, -, hread⟩ := Option.bind_eq_some_iff.mp hread
  obtain ⟨comment, -, hread⟩ := Option.bind_eq_some_iff.mp hread
  obtain ⟨provider, -, hread⟩ := Option.bind_eq_some_iff.mp hread
  obtain ⟨sum, hsum, hread⟩ := Option.bind_eq_some_iff.mp hread
  obtain ⟨commission, -, hread⟩ := Option.bind_eq_some_iff.mp hread
  obtain ⟨total, -, hread⟩ := Option.bind_eq_some_iff.mp hread
  obtain ⟨signFields, -, hread⟩ := Option.bind_eq_some_iff.mp hread
  obtain rfl := Option.some.inj hread
  exact ⟨fields, hfields, hsum⟩

theorem Money.exists_amount
    {m : Money} {v : Json} (hread : Money.read? v = some m) :
    ∃ fields, Json.fields? moneyFieldNames v = some fields ∧
      fields.required? "amount" Json.number? = some m.amount := by
  obtain ⟨fields, hfields, hread⟩ := Option.bind_eq_some_iff.mp hread
  obtain ⟨amount, hamount, hread⟩ := Option.bind_eq_some_iff.mp hread
  obtain ⟨currency, -, hread⟩ := Option.bind_eq_some_iff.mp hread
  obtain rfl := Option.some.inj hread
  exact ⟨fields, hfields, hamount⟩

/-- **The amount of a notice is the value of its literal in the body.** -/
theorem exists_amountLiteral
    {body : List UInt8} {v : Json} {n : PaymentNotice}
    (hbody : Json.parse? body = some v) (hread : PaymentNotice.read? v = some n) :
    ∃ numeral, amountLiteral? body = some numeral ∧
      numeral.value? = some n.payment.sum.amount := by
  obtain ⟨notice, hnotice, hvalue⟩ := Option.bind_eq_some_iff.mp hbody
  obtain ⟨fields, hfields, hpayment⟩ := n.exists_payment hread
  obtain ⟨d, hd, hread⟩ := Json.Fields.exists_of_required? hpayment
  obtain ⟨payment, depth, hpayment, hvalue⟩ :=
    JsonText.exists_field hvalue hfields (by decide) hd
  obtain ⟨fields, hfields, hsum⟩ := n.payment.exists_sum hread
  obtain ⟨d, hd, hread⟩ := Json.Fields.exists_of_required? hsum
  obtain ⟨sum, depth, hsum, hvalue⟩ := JsonText.exists_field hvalue hfields (by decide) hd
  obtain ⟨fields, hfields, hamount⟩ := n.payment.sum.exists_amount hread
  obtain ⟨d, hd, hread⟩ := Json.Fields.exists_of_required? hamount
  obtain ⟨amount, depth, hamount, hvalue⟩ := JsonText.exists_field hvalue hfields (by decide) hd
  obtain ⟨numeral, rfl, hnumeral⟩ := JsonText.exists_numeral hvalue hread
  refine ⟨numeral, ?_, hnumeral⟩
  rw [amountLiteral?, hnotice]
  simp [hpayment, hsum, hamount]

namespace NoticePayment

/-- The written form of a field that can be signed, with a literal for the amount. -/
def literalField? (p : NoticePayment) (w name : String) : Option String :=
  if name = "sum.amount" then some w else p.signedField? name

/-- The text that is signed by someone who takes a literal for the amount. -/
def literalText? (p : NoticePayment) (w : String) : Option String :=
  (p.signFieldNames.mapM (p.literalField? w)).map Signature.joined

end NoticePayment

/-- **A signature over the literal** is accepted exactly if the amount is not signed, or its text
is the literal. -/
theorem PaymentNotice.verify_literal_iff
    {n : PaymentNotice} {key : List UInt8} {w text : String}
    (htext : n.payment.literalText? w = some text) (hhash : n.hash = Signature.sign key text)
    (hcode : Set.InjOn (fun text => Hmac.code key (Utf8.encode text))
      {other | other = text ∨ n.payment.signedText? = some other}) :
    n.verify key = true ↔
      ("sum.amount" ∈ n.payment.signFieldNames → n.payment.sum.amount.text = w) := by
  obtain ⟨ps, rfl, hps⟩ := Signature.joined_mapM_eq_some_iff.mp htext
  have hsame : ∀ name, name ≠ "sum.amount" →
      n.payment.literalField? w name = n.payment.signedField? name :=
    fun name hname => if_neg hname
  have hamount : n.payment.signedField? "sum.amount" = some n.payment.sum.amount.text := rfl
  rw [verify_iff]
  constructor
  · rintro ⟨other, hother, hverify⟩ hname
    rw [hhash, Signature.verify_sign_iff] at hverify
    obtain ⟨qs, rfl, hqs⟩ := NoticePayment.signedText?_eq_some_iff.mp hother
    have hjoined := hcode (.inr hother) (.inl rfl) hverify
    by_contra hne
    refine Signature.joined_ne_of_field (fun name _ => hsame name) ?_ hname hqs hps hjoined.symm
    rw [hamount]
    exact fun h => hne (Option.some.inj h).symm
  · intro hliteral
    refine ⟨_, NoticePayment.signedText?_eq_some_iff.mpr ⟨ps, rfl, ?_⟩, ?_⟩
    · rw [← hps]
      refine List.map_congr_left fun name hname => ?_
      by_cases heq : name = "sum.amount"
      · subst heq
        rw [hamount, hliteral hname]
        rfl
      · exact (hsame name heq).symm
    · rw [hhash]
      exact Signature.verify_self _ _

/-- **The amount is signed as it was read**, and not as it was spelled. -/
theorem amount_signed_as_read
    {body : List UInt8} {v : Json} {n : PaymentNotice}
    (hbody : Json.parse? body = some v) (hread : PaymentNotice.read? v = some n) :
    ∃ numeral, amountLiteral? body = some numeral ∧
      numeral.value? = some n.payment.sum.amount ∧
      n.payment.signedField? "sum.amount" = some n.payment.sum.amount.text ∧
      ∀ w : String, Json.Numeral.ofChars? w.toList = some numeral →
        (numeral.fraction = none → numeral.exponent = none →
          (n.payment.signedField? "sum.amount" = some w ↔ numeral.Fits)) ∧
        (∀ digits, digits ≠ [] → numeral.fraction = some (digits ++ ['0']) →
          n.payment.signedField? "sum.amount" ≠ some w) ∧
        (w.toList ≠ numeral.chars → n.payment.signedField? "sum.amount" ≠ some w) ∧
        ∀ key text, n.payment.literalText? w = some text → n.hash = Signature.sign key text →
          Set.InjOn (fun text => Hmac.code key (Utf8.encode text))
            {other | other = text ∨ n.payment.signedText? = some other} →
          (n.verify key = true ↔ ("sum.amount" ∈ n.payment.signFieldNames →
            n.payment.signedField? "sum.amount" = some w)) := by
  obtain ⟨numeral, hliteral, hvalue⟩ := exists_amountLiteral hbody hread
  have hamount : ∀ w, n.payment.signedField? "sum.amount" = some w ↔
      n.payment.sum.amount.text = w := fun w => Option.some_inj
  refine ⟨numeral, hliteral, hvalue, rfl, fun w hw => ⟨fun hfraction hexponent => ?_,
    fun digits hdigits hzero => ?_, fun hchars h => ?_, fun key text htext hhash hcode => ?_⟩⟩
  · rw [hamount]
    exact Json.Number.text_eq_iff_fits hw hvalue hfraction hexponent
  · rw [ne_eq, hamount]
    exact Json.Number.text_ne_of_trailing_zero hw hzero hdigits
  · exact hchars (Json.Number.toList_eq_chars hw ((hamount w).mp h))
  · rw [hamount]
    exact PaymentNotice.verify_literal_iff htext hhash hcode

/-- The body of a notice, with a literal for the amount and a signature. -/
def literalBody (w hash : String) : List UInt8 :=
  Utf8.bytes <| Json.objectChars [
    ("hash", Json.stringChars hash), ("hookId", Json.stringChars "2"),
    ("messageId", Json.stringChars "1"),
    ("payment", Json.objectChars [
      ("account", Json.stringChars "+78000008000"),
      ("date", Json.stringChars "2018-06-27T13:39:00+03:00"),
      ("status", Json.stringChars "SUCCESS"),
      ("sum", Json.objectChars [("amount", w.toList), ("currency", "643".toList)]),
      ("txnId", Json.stringChars "13353941550"), ("type", Json.stringChars "IN")]),
    ("version", Json.stringChars "1.0.0")]

/-- The tree of the body. -/
def literalTree (numeral : Json.Numeral) (hash : String) : JsonText :=
  .object [(Json.pieces "hash", .string (Json.pieces hash)),
    (Json.pieces "hookId", .string (Json.pieces "2")),
    (Json.pieces "messageId", .string (Json.pieces "1")),
    (Json.pieces "payment", .object [
      (Json.pieces "account", .string (Json.pieces "+78000008000")),
      (Json.pieces "date", .string (Json.pieces "2018-06-27T13:39:00+03:00")),
      (Json.pieces "status", .string (Json.pieces "SUCCESS")),
      (Json.pieces "sum", .object [
        (Json.pieces "amount", .number numeral),
        (Json.pieces "currency", .number ⟨false, ['6', '4', '3'], none, none⟩)]),
      (Json.pieces "txnId", .string (Json.pieces "13353941550")),
      (Json.pieces "type", .string (Json.pieces "IN"))]),
    (Json.pieces "version", .string (Json.pieces "1.0.0"))]

/-- The value of the body. -/
def literalValue (amount : Json.Number) (hash : String) : Json :=
  .object [("hash", .string hash), ("hookId", .string "2"), ("messageId", .string "1"),
    ("payment", .object [("account", .string "+78000008000"),
      ("date", .string "2018-06-27T13:39:00+03:00"), ("status", .string "SUCCESS"),
      ("sum", .object [("amount", .number amount), ("currency", .ofInt64 643)]),
      ("txnId", .string "13353941550"), ("type", .string "IN")]),
    ("version", .string "1.0.0")]

/-- The notice of the body. -/
def literalNotice (amount : Json.Number) (hash : String) : PaymentNotice :=
  ⟨"1", "2", { roublePayment with sum := ⟨amount, 643⟩ }, hash, "1.0.0", false⟩

open Json.Token in
theorem parse?_literalTree
    {w : String} {numeral : Json.Numeral} (hw : Json.Numeral.ofChars? w.toList = some numeral)
    (hash : String) :
    JsonText.parse? (literalBody w hash) = some (literalTree numeral hash) := by
  have hcurrency : Json.Numeral.ofChars? "643".toList = some ⟨false, ['6', '4', '3'], none, none⟩ := by
    decide
  have hsum := (ReadMembers.cons "amount" (readsAs_literal hw) <|
    .cons "currency" (readsAs_literal hcurrency) .nil).readsAs
  have hpayment := (ReadMembers.cons "account" (readsAs_string "+78000008000") <|
    .cons "date" (readsAs_string "2018-06-27T13:39:00+03:00") <|
    .cons "status" (readsAs_string "SUCCESS") <| .cons "sum" hsum <|
    .cons "txnId" (readsAs_string "13353941550") <| .cons "type" (readsAs_string "IN") .nil).readsAs
  have hnotice := (ReadMembers.cons "hash" (readsAs_string hash) <|
    .cons "hookId" (readsAs_string "2") <| .cons "messageId" (readsAs_string "1") <|
    .cons "payment" hpayment <| .cons "version" (readsAs_string "1.0.0") .nil).readsAs
  rw [JsonText.parse?, Json.tokens?, literalBody, hnotice.atEnd []]
  rfl

theorem value?_literalTree
    {numeral : Json.Numeral} {amount : Json.Number} (hvalue : numeral.value? = some amount)
    (hash : String) :
    (literalTree numeral hash).value? JsonText.depthLimit = some (literalValue amount hash) := by
  have hcurrency : Json.Numeral.value? ⟨false, ['6', '4', '3'], none, none⟩ =
      some (.ofInt64 643) := by
    rfl
  have hsorted : ∀ (names : List String) (members : List (String × Json)),
      (names.Pairwise fun a b => a ≤ b ∧ a ≠ b) → members.map Prod.fst = names →
        Json.objectOf members = .object members := by
    rintro _ members hnames rfl
    have hmembers : Json.Ascending members := List.pairwise_map.mp hnames
    rw [Json.objectOf, hmembers.sortMembers_eq]
  simp only [literalTree, JsonText.depthLimit, JsonText.value?, List.mapM_cons, List.mapM_nil,
    Json.text?_pieces, hvalue, hcurrency, Option.map_some, Option.bind_eq_bind, Option.bind_some,
    Option.pure_def]
  rw [hsorted ["hash", "hookId", "messageId", "payment", "version"] _ (by decide) rfl,
    hsorted ["account", "date", "status", "sum", "txnId", "type"] _ (by decide) rfl,
    hsorted ["amount", "currency"] _ (by decide) rfl]
  rfl

/-- Every literal of a number can stand in a body. -/
theorem read_literalBody
    {w : String} {numeral : Json.Numeral} {amount : Json.Number}
    (hw : Json.Numeral.ofChars? w.toList = some numeral) (hvalue : numeral.value? = some amount)
    (hash : String) :
    Json.parse? (literalBody w hash) = some (literalValue amount hash) ∧
      PaymentNotice.read? (literalValue amount hash) = some (literalNotice amount hash) ∧
      amountLiteral? (literalBody w hash) = some numeral := by
  refine ⟨?_, rfl, ?_⟩
  · rw [Json.parse?, parse?_literalTree hw]
    exact value?_literalTree hvalue hash
  · rw [amountLiteral?, parse?_literalTree hw]
    simp [literalTree, JsonText.field?, JsonText.namedMembers, Json.text?_pieces, Json.lastOf?]

/-- A notice of one rouble without decimals, which is signed over this literal. -/
def wholeNotice : PaymentNotice := literalNotice (.ofInt64 1) (Signature.sign wordKey roubleText)

/-- A rouble without decimals is signed as it was spelled, and the notice is accepted. -/
theorem amount_signed_as_read_of_whole :
    Json.parse? (literalBody "1" wholeNotice.hash) =
      some (literalValue (.ofInt64 1) wholeNotice.hash) ∧
    PaymentNotice.read? (literalValue (.ofInt64 1) wholeNotice.hash) = some wholeNotice ∧
    wholeNotice.payment.signedField? "sum.amount" = some "1" ∧
    wholeNotice.verify wordKey = true := by
  have hw : Json.Numeral.ofChars? "1".toList = some ⟨false, ['1'], none, none⟩ := by
    decide
  obtain ⟨hbody, hread, hliteral⟩ := read_literalBody hw
    (show Json.Numeral.value? ⟨false, ['1'], none, none⟩ = some (.ofInt64 1) from rfl)
    wholeNotice.hash
  obtain ⟨numeral, hnumeral, -, -, hspelled⟩ := amount_signed_as_read hbody hread
  obtain rfl := Option.some.inj (hnumeral.symm.trans hliteral)
  obtain ⟨hplain, -, -, hsigned⟩ := hspelled "1" hw
  have hfits : Json.Numeral.Fits ⟨false, ['1'], none, none⟩ :=
    ⟨rfl, rfl, by simp, fun _ => by decide⟩
  have hfield : wholeNotice.payment.signedField? "sum.amount" = some "1" :=
    (hplain rfl rfl).mpr hfits
  have htext : wholeNotice.payment.literalText? "1" = some roubleText := by
    decide +kernel
  have hsame : ∀ other, other = roubleText ∨ wholeNotice.payment.signedText? = some other →
      other = roubleText := by
    rintro other (rfl | hother)
    · rfl
    · exact Option.some.inj (hother.symm.trans signedText?_roublePayment)
  have hcode : Set.Subsingleton
      {other | other = roubleText ∨ wholeNotice.payment.signedText? = some other} :=
    fun text htext other hother => (hsame text htext).trans (hsame other hother).symm
  exact ⟨hbody, hread, hfield, (hsigned wordKey roubleText htext rfl (hcode.injOn _)).mpr
    fun _ => hfield⟩

/-- One as a double. -/
def oneDouble : Double := ⟨false, 2 ^ 52, -52, by decide⟩

/-- The text that is signed for one rouble with two decimals. -/
def decimalText : String := "643|1.00|IN|+78000008000|13353941550"

/-- A notice of one rouble with two decimals, which is signed over this literal. -/
def decimalNotice : PaymentNotice :=
  literalNotice (.double oneDouble) (Signature.sign wordKey decimalText)

/-- A rouble with two decimals is signed with one decimal, and the notice is refused. -/
theorem decimals_signed_otherwise :
    Json.parse? (literalBody "1.00" decimalNotice.hash) =
      some (literalValue (.double oneDouble) decimalNotice.hash) ∧
    PaymentNotice.read? (literalValue (.double oneDouble) decimalNotice.hash) =
      some decimalNotice ∧
    amountLiteral? (literalBody "1.00" decimalNotice.hash) =
      Json.Numeral.ofChars? "1.00".toList ∧
    decimalNotice.payment.signedField? "sum.amount" = some "1.0" ∧
    decimalNotice.payment.signedField? "sum.amount" ≠ some "1.00" ∧
    decimalNotice.payment.literalText? "1.00" = some decimalText ∧
    decimalNotice.hash = Signature.sign wordKey decimalText ∧
    decimalNotice.verify wordKey = false := by
  have hw : Json.Numeral.ofChars? "1.00".toList = some ⟨false, ['1'], some ['0', '0'], none⟩ := by
    decide
  have hvalue : Json.Numeral.value? ⟨false, ['1'], some ['0', '0'], none⟩ =
      some (.double oneDouble) := by
    decide +kernel
  obtain ⟨hbody, hread, hliteral⟩ := read_literalBody hw hvalue decimalNotice.hash
  have hfield : decimalNotice.payment.signedField? "sum.amount" = some "1.0" := by
    decide +kernel
  refine ⟨hbody, hread, hliteral.trans hw.symm, hfield, ?_, by decide +kernel, rfl, ?_⟩
  · rw [hfield]
    decide
  · have hsigned : decimalNotice.payment.signedText? =
        some "643|1.0|IN|+78000008000|13353941550" := by
      decide +kernel
    rw [PaymentNotice.verify, hsigned, Bool.eq_false_iff, ne_eq]
    dsimp only [decimalNotice, literalNotice]
    rw [Signature.verify_sign_iff]
    decide +kernel

end WalletEvents
