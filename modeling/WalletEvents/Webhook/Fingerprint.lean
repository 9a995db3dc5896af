import WalletEvents.Crypto.Sha256
import WalletEvents.Json.Basic
import WalletEvents.Text.Utf8

/-!
# Fingerprints of notices

The fingerprint of a notice is the digest of its canonical JSON text, so it depends on the value alone
and not on the spelling. The fingerprints of the notices that were taken are remembered for good, each
once.
-/

namespace WalletEvents

/-- The digest of a JSON value. -/
structure Fingerprint where
  digest : List UInt8
  deriving DecidableEq

/-- The bytes that are digested for the fingerprint of a value: its canonical text. -/
def Fingerprint.text (value : Json) : List UInt8 := Utf8.encode value.compress

/-- The fingerprint of a value. -/
def Fingerprint.of (payload : Json) : Fingerprint := ⟨Sha256.digest (text payload)⟩

/-- Fingerprints, each once. -/
structure SeenNotices where
  fingerprints : List Fingerprint
  nodup : fingerprints.Nodup

namespace SeenNotices

def empty : SeenNotices := ⟨[], .nil⟩

/-- Whether a fingerprint is among them. -/
def contains (seen : SeenNotices) (f : Fingerprint) : Bool := decide (f ∈ seen.fingerprints)

/-- Adds a fingerprint, and tells whether it was missing. -/
def remember (seen : SeenNotices) (f : Fingerprint) : Bool × SeenNotices :=
  if h : f ∈ seen.fingerprints then (false, seen)
  else (true, ⟨f :: seen.fingerprints, List.nodup_cons.mpr ⟨h, seen.nodup⟩⟩)

/-- The number of fingerprints. -/
def size (seen : SeenNotices) : Nat := seen.fingerprints.length

end SeenNotices

end WalletEvents
