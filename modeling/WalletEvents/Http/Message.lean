import WalletEvents.Network.Address

/-!
# Requests and responses

The messages that travel between a client and a server, as far as they matter here: header values
and bodies are bytes, and the names of headers have no case.
-/

namespace WalletEvents

namespace Http

/-- The name and the value of a header. -/
abbrev Header := String × List UInt8

/-- A request as a server receives it; the other end of the connection may be unknown. -/
structure Request where
  method : String
  /-- The path, and the query behind a question mark. -/
  target : String
  headers : List Header
  body : List UInt8
  peer : Option Address

/-- The response of a server. -/
structure Response where
  status : Nat
  contentType : Option String
  /-- The methods that could be used instead of the one refused. -/
  allow : Option String
  body : String
  deriving DecidableEq

/-- A response that is only a status. -/
def Response.ofStatus (status : Nat) : Response := ⟨status, none, none, ""⟩

/-- A response with a plain text. -/
def Response.plain (status : Nat) (body : String) : Response :=
  ⟨status, some "text/plain; charset=utf-8", none, body⟩

/-- A response with a JSON text. -/
def Response.json (status : Nat) (body : String) : Response :=
  ⟨status, some "application/json", none, body⟩

/-- The response as it answers a method: a request for the head alone gets no body. -/
def Response.answering (r : Response) (method : String) : Response :=
  if method = "HEAD" then { r with body := "" } else r

/-- The value of the first header of a name, which is given in small letters. -/
def header? (name : String) (headers : List Header) : Option (List UInt8) :=
  (headers.find? fun header => header.1.toLower == name).map Prod.snd

/-- Whether the byte is a visible character, a space or a tab. -/
def isTextByte (b : UInt8) : Bool := (32 ≤ b && b < 127) || b == 9

/-- The characters of a header value, if they are all visible characters, spaces or tabs. -/
def headerText? (value : List UInt8) : Option (List Char) :=
  if value.all isTextByte then some (value.map fun b => Char.ofNat b.toNat) else none

/-- Whether a text may stand as a header value: it has no control characters but tabs. -/
def isHeaderValue (text : String) : Bool :=
  text.toList.all fun c => (32 ≤ c.toNat && c.toNat != 127) || c.toNat == 9

end Http

end WalletEvents
