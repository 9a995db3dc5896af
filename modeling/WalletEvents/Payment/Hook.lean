import WalletEvents.Payment.Field

/-!
# Hooks

A hook is the standing order at the wallet service to send notices to an address. The service signs
them with the key of the hook.
-/

namespace WalletEvents

/-- The address that notices are sent to. -/
structure HookParameters where
  url : String
  deriving DecidableEq

/-- A hook as the service describes it. -/
structure Hook where
  hookId : String
  hookParameters : HookParameters
  hookType : String
  txnType : String
  deriving DecidableEq

/-- The key of a hook in base 64. -/
structure HookKey where
  key : String
  deriving DecidableEq

section Reading

variable {δ : Type} [Json.Document δ]

def HookParameters.read? (d : δ) : Option HookParameters := do
  let fields ← Json.fields? ["url"] d
  some { url := ← fields.required? "url" Json.text? }

def Hook.read? (d : δ) : Option Hook := do
  let fields ← Json.fields? ["hookId", "hookParameters", "hookType", "txnType"] d
  some {
    hookId := ← fields.required? "hookId" Json.text?
    hookParameters := ← fields.required? "hookParameters" HookParameters.read?
    hookType := ← fields.required? "hookType" Json.text?
    txnType := ← fields.required? "txnType" Json.text? }

def HookKey.read? (d : δ) : Option HookKey := do
  let fields ← Json.fields? ["key"] d
  some { key := ← fields.required? "key" Json.text? }

end Reading

def HookParameters.toJson (p : HookParameters) : Json := .record [("url", some (.string p.url))]

def Hook.toJson (h : Hook) : Json :=
  .record [
    ("hookId", some (.string h.hookId)),
    ("hookParameters", some h.hookParameters.toJson),
    ("hookType", some (.string h.hookType)),
    ("txnType", some (.string h.txnType))]

def HookKey.toJson (k : HookKey) : Json := .record [("key", some (.string k.key))]

end WalletEvents
