import WalletEvents.Crypto.Sha256

/-!
# Keyed digests

The authentication code of a message under a key of any length. A key longer than a block of the
digest is replaced by its digest, and a shorter one is filled up with zeros.
-/

namespace WalletEvents

namespace Hmac

/-- The key in the length of a block. -/
def blockKey (key : List UInt8) : List UInt8 :=
  let key := if 64 < key.length then Sha256.digest key else key
  key ++ List.replicate (64 - key.length) 0

/-- The authentication code of a message. -/
def code (key message : List UInt8) : List UInt8 :=
  let inner := Sha256.digest ((blockKey key).map (· ^^^ 0x36) ++ message)
  Sha256.digest ((blockKey key).map (· ^^^ 0x5c) ++ inner)

end Hmac

end WalletEvents
