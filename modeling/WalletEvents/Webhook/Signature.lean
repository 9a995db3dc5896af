import WalletEvents.Crypto.Hmac
import WalletEvents.Failure
import WalletEvents.Payment.Bill
import WalletEvents.Payment.Notice
import WalletEvents.Text.Blank
import WalletEvents.Text.Hex
import WalletEvents.Text.Split
import WalletEvents.Text.Utf8

/-!
# Signatures of notices

The wallet service signs a notice by the authentication code of a text made of some of its fields,
joined by vertical bars. For a bill the fields are fixed; a wallet payment names its signed fields
itself or has the usual ones.

A signature is written in base 16. Blanks around it and the case of its letters do not matter.
-/

namespace WalletEvents

namespace Signature

def sign (key : List UInt8) (text : String) : String := Hex.encode (Hmac.code key (Utf8.encode text))

/-- Whether a text has the given signature. -/
def verify (key : List UInt8) (text signature : String) : Bool :=
  match Hex.decode? (trimText signature) with
  | some code => Hmac.code key (Utf8.encode text) == code
  | none => false

/-- The bytes of a key in base 64. -/
def key (text : String) : Except Failure (List UInt8) :=
  (Base64.decode (Utf8.encode (trimText text))).mapError Failure.key

def joined (fields : List String) : String := "|".intercalate fields

end Signature

namespace Bill

def signedText (b : Bill) : String :=
  Signature.joined [b.amount.currency, b.amount.value, b.billId, b.siteId, Named.name b.status.value]

/-- Whether a bill has the given signature. -/
def verify (b : Bill) (secret : List UInt8) (signature : String) : Bool :=
  Signature.verify secret b.signedText signature

end Bill

namespace NoticePayment

/-- The names of the fields that are signed when the payment names none. -/
def usualSignFields : String := "sum.currency,sum.amount,type,account,txnId"

/-- The written form of a field that can be signed. -/
def signedField? (p : NoticePayment) (name : String) : Option String :=
  match name with
  | "sum.currency" => some (toString p.sum.currency.toInt)
  | "sum.amount" => some p.sum.amount.text
  | "type" => some (Named.name p.type)
  | "account" => some p.account
  | "txnId" => some p.txnId
  | "status" => some (Named.name p.status)
  | "personId" => p.personId.map fun id => toString id.toInt
  | "date" => some (p.date.text .digits)
  | _ => none

/-- The list of the names of the signed fields. -/
def signFieldList (p : NoticePayment) : String :=
  match p.signFields with
  | some names => if (trimText names).isEmpty then usualSignFields else names
  | none => usualSignFields

def signFieldNames (p : NoticePayment) : List String :=
  (splitAll ',' p.signFieldList.toList).map fun name => String.ofList (trimBlanks name)

/-- The text of a payment that is signed, if it has all the fields named. -/
def signedText? (p : NoticePayment) : Option String :=
  (p.signFieldNames.mapM p.signedField?).map Signature.joined

end NoticePayment

/-- Whether a notice of a payment carries its signature. -/
def PaymentNotice.verify (n : PaymentNotice) (key : List UInt8) : Bool :=
  match n.payment.signedText? with
  | some text => Signature.verify key text n.hash
  | none => false

end WalletEvents
