import WalletEvents.Payment.Field

/-!
# Faults that the service reports

The body with which the wallet service explains that it refused a request.
-/

namespace WalletEvents

/-- The explanation of a refused request. -/
structure Fault where
  serviceName : Option String
  errorCode : String
  description : Option String
  userMessage : Option String
  dtStamp : Option String
  traceId : Option String
  deriving DecidableEq

namespace Fault

/-- Reads the explanation of a refused request. -/
def read? {δ : Type} [Json.Document δ] (d : δ) : Option Fault := do
  let fields ← Json.fields? ["serviceName", "errorCode", "description", "userMessage", "dtStamp",
    "traceId"] d
  some {
    serviceName := ← fields.optional? "serviceName" Json.text?
    errorCode := ← fields.required? "errorCode" Json.text?
    description := ← fields.optional? "description" Json.text?
    userMessage := ← fields.optional? "userMessage" Json.text?
    dtStamp := ← fields.optional? "dtStamp" Json.text?
    traceId := ← fields.optional? "traceId" Json.text? }

/-- The explanation as a record. -/
def toJson (f : Fault) : Json :=
  .record [
    ("serviceName", f.serviceName.map .string),
    ("errorCode", some (.string f.errorCode)),
    ("description", f.description.map .string),
    ("userMessage", f.userMessage.map .string),
    ("dtStamp", f.dtStamp.map .string),
    ("traceId", f.traceId.map .string)]

end Fault

end WalletEvents
