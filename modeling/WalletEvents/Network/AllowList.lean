import WalletEvents.Http.Message
import WalletEvents.Json.Reader
import WalletEvents.Network.Cidr

/-!
# Allowed senders

A list of networks allows the addresses that lie in any of them. The sender of a request is the first
address that its proxies name, if that is one, and else the other end of the connection.
-/

namespace WalletEvents

/-- The networks whose addresses are allowed. -/
structure AllowList where
  networks : List Cidr
  deriving DecidableEq

namespace AllowList

/-- Reads the written forms of all networks. -/
def ofTexts (texts : List String) : Except Failure AllowList := (texts.mapM Cidr.read).map AllowList.mk

/-- The networks that the wallet service sends from. -/
def serviceNetworks : List String :=
  ["79.142.16.0/20", "195.189.100.0/22", "91.232.230.0/23", "91.213.51.0/24"]

/-- Allows the wallet service. -/
def service : AllowList := ⟨serviceNetworks.filterMap fun text => (Cidr.read text).toOption⟩

def allows (list : AllowList) (ip : Address) : Bool := list.networks.any (·.contains ip)

/-- Reads a list of networks. -/
def read? {δ : Type} [Json.Document δ] (d : δ) : Option AllowList := do
  let fields ← Json.fields? ["networks"] d
  some {
    networks := ← fields.required? "networks" (Json.list? fun d =>
      (Json.text? d).bind fun text => (Cidr.read text).toOption) }

end AllowList

/-- The first address that the proxies of a request name. -/
def forwardedAddress? (headers : List Http.Header) : Option Address := do
  let value ← Http.header? "x-forwarded-for" headers
  Address.ofChars? (trimBlanks (upTo ',' (← Http.headerText? value)))

/-- The sender of a request: the address its proxies name first, or the other end. -/
def sender? (headers : List Http.Header) (peer : Option Address) : Option Address :=
  (forwardedAddress? headers).or peer

end WalletEvents
