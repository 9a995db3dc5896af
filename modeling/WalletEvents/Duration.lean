import WalletEvents.Json.Reader

/-!
# Durations

A duration is a number of seconds below 2^64 and a number of nanoseconds below a thousand million.
Pauses are made in whole milliseconds and never shorter than asked for.
-/

namespace WalletEvents

/-- A length of time. -/
structure Duration where
  seconds : Nat
  nanos : Nat
  seconds_lt : seconds < 2 ^ 64
  nanos_lt : nanos < 1000000000
  deriving DecidableEq

namespace Duration

/-- Seconds and nanoseconds of any number, if their sum is a duration. -/
def ofParts? (seconds nanos : Nat) : Option Duration :=
  if h : seconds + nanos / 1000000000 < 2 ^ 64 then
    some ⟨seconds + nanos / 1000000000, nanos % 1000000000, h, Nat.mod_lt _ (by decide)⟩
  else none

/-- Whole seconds. -/
def ofSeconds (seconds : Nat) (h : seconds < 2 ^ 64 := by decide) : Duration :=
  ⟨seconds, 0, h, by decide⟩

/-- The least number of milliseconds that is not shorter. -/
def milliseconds (d : Duration) : Nat := d.seconds * 1000 + (d.nanos + 999999) / 1000000

/-- Reads a duration: a record of both parts and nothing else. -/
def read? {δ : Type} [Json.Document δ] (d : δ) : Option Duration := do
  let fields ← Json.exactFields? ["secs", "nanos"] d
  let seconds ← fields.required? "secs" (Json.natural? (2 ^ 64 - 1))
  let nanos ← fields.required? "nanos" (Json.natural? (2 ^ 32 - 1))
  ofParts? seconds nanos

end Duration

end WalletEvents
