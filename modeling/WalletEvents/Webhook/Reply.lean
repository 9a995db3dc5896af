import WalletEvents.Dispatch.Dispatcher
import WalletEvents.Http.Message
import WalletEvents.Json.Basic

/-!
# Replies to notices

A notice is taken or refused. A notice that was taken before is taken again, so that its sender stops
sending it.
-/

namespace WalletEvents

/-- The kinds of notices. -/
inductive NoticeKind where
  | transaction
  | bill
  deriving DecidableEq

/-- Why a notice is refused. -/
inductive NoticeFault where
  | invalid
  | wrongSignature (kind : NoticeKind)
  | forbidden
  | handler (fault : DispatchError)
  deriving DecidableEq

namespace NoticeFault

def message : NoticeFault → String
  | .invalid => "Validation error"
  | .wrongSignature .transaction => "Invalid hash of transaction."
  | .wrongSignature .bill => "Invalid hash of bill."
  | .forbidden => "Forbidden"
  | .handler fault => fault.message

/-- The status of the refusal. -/
def status : NoticeFault → Nat
  | .invalid => 400
  | .wrongSignature _ => 400
  | .forbidden => 401
  | .handler _ => 500

/-- What the sender is told; failures of handlers are none of its business. -/
def told : NoticeFault → String
  | .handler _ => "Internal error"
  | fault => fault.message

/-- The response of a refusal. -/
def response (fault : NoticeFault) : Http.Response :=
  .json fault.status (Json.record [("status", some (.string fault.told))]).compress

end NoticeFault

def NoticeKind.taken : NoticeKind → Http.Response
  | .transaction => .plain 200 "ok"
  | .bill => .json 200 (Json.record [("error", some (.string "0"))]).compress

def NoticeKind.response (kind : NoticeKind) : Except NoticeFault Unit → Http.Response
  | .ok () => kind.taken
  | .error fault => fault.response

end WalletEvents
