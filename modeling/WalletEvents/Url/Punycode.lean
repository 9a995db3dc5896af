/-!
# Punycode

A label of a domain name with characters outside ASCII is written in ASCII: first the characters of
ASCII, then the others as differences of their code points and places, in digits of base 36 whose
weights adapt to the differences before.
-/

namespace WalletEvents

namespace Punycode

/-- The digit of a number below 36. -/
def digit (n : Nat) : Char := if n < 26 then Char.ofNat (97 + n) else Char.ofNat (22 + n)

/-- The number of a digit. -/
def value? (c : Char) : Option Nat :=
  let n := c.toNat
  if 97 ≤ n ∧ n ≤ 122 then some (n - 97)
  else if 65 ≤ n ∧ n ≤ 90 then some (n - 65)
  else if 48 ≤ n ∧ n ≤ 57 then some (n - 22)
  else none

/-- The least value of a digit that is not the last one. -/
def threshold (place bias : Nat) : Nat := min 26 (max 1 (place - bias))

theorem one_le_threshold (place bias : Nat) : 1 ≤ threshold place bias := by
  unfold threshold
  omega

theorem threshold_le (place bias : Nat) : threshold place bias ≤ 26 := by
  unfold threshold
  omega

/-- Divides a difference until it is small, and counts the divisions. -/
def shrink (delta divisions : Nat) : Nat × Nat :=
  if 455 < delta then shrink (delta / 35) (divisions + 1) else (delta, divisions)
termination_by delta
decreasing_by omega

/-- The bias after a difference. -/
def adapt (delta count : Nat) (first : Bool) : Nat :=
  let delta := if first then delta / 700 else delta / 2
  let (delta, divisions) := shrink (delta + delta / count) 0
  divisions * 36 + 36 * delta / (delta + 38)

/-- The digits of a difference. -/
def encodeDelta (bias place delta : Nat) : List Char :=
  let t := threshold place bias
  if delta < t then [digit delta]
  else digit (t + (delta - t) % (36 - t)) :: encodeDelta bias (place + 36) ((delta - t) / (36 - t))
termination_by delta
decreasing_by
  have h := one_le_threshold place bias
  have h' := threshold_le place bias
  calc (delta - threshold place bias) / (36 - threshold place bias)
      ≤ delta - threshold place bias := Nat.div_le_self ..
    _ < delta := by omega

/-- The state of the encoder: the difference, the bias, and the number of characters written. -/
structure Encoder where
  delta : Nat
  bias : Nat
  count : Nat
  written : List Char

/-- Passes over a character while characters of a code point are written. -/
def Encoder.pass (basic code : Nat) (e : Encoder) (c : Char) : Encoder :=
  if c.toNat < code then { e with delta := e.delta + 1 }
  else if c.toNat = code then
    ⟨0, adapt e.delta (e.count + 1) (e.count == basic), e.count + 1,
      e.written ++ encodeDelta e.bias 36 e.delta⟩
  else e

/-- Writes the characters of each code point in order. -/
def encodeCodes (text : List Char) (basic : Nat) : List Nat → Nat → Encoder → Encoder
  | [], _, e => e
  | code :: codes, last, e =>
    let e := { e with delta := e.delta + (code - last) * (e.count + 1) }
    let e := text.foldl (Encoder.pass basic code) e
    encodeCodes text basic codes (code + 1) { e with delta := e.delta + 1 }

/-- The label in ASCII, without the mark that tells of it. -/
def encode (text : List Char) : List Char :=
  let basic := text.filter fun c => c.toNat < 128
  let codes := ((text.filter fun c => 128 ≤ c.toNat).map Char.toNat).mergeSort.eraseDups
  let e := encodeCodes text basic.length codes 128 ⟨0, 72, basic.length, []⟩
  basic ++ (if basic.isEmpty then [] else ['-']) ++ e.written

/-- Reads the digits of a difference behind a sum. -/
def decodeDelta (bias : Nat) : List Char → Nat → Nat → Nat → Option (Nat × List Char)
  | [], _, _, _ => none
  | c :: rest, place, weight, sum => do
    let d ← value? c
    let sum := sum + d * weight
    let t := threshold place bias
    if d < t then some (sum, rest) else decodeDelta bias rest (place + 36) (weight * (36 - t)) sum

/-- Puts the characters of the differences into their places; the number bounds the differences. -/
def decodeCodes : Nat → List Char → Nat → Nat → Nat → List Char → Option (List Char)
  | _, [], _, _, _, text => some text
  | 0, _ :: _, _, _, _, _ => none
  | most + 1, digits, code, place, bias, text => do
    let (sum, rest) ← decodeDelta bias digits 36 1 place
    let count := text.length + 1
    let bias := adapt (sum - place) count (place == 0)
    let code := code + sum / count
    let spot := sum % count
    if code < 0xd800 ∨ (0xe000 ≤ code ∧ code < 0x110000) then
      decodeCodes most rest code (spot + 1) bias (text.take spot ++ Char.ofNat code :: text.drop spot)
    else none

/-- The characters before the last hyphen, and those after it; a hyphen at the beginning does not count. -/
def cutAtLast (text : List Char) : List Char × List Char :=
  let after := (text.reverse.takeWhile (· != '-')).reverse
  match (text.take (text.length - after.length)).dropLast with
  | [] => ([], text)
  | before => (before, after)

/-- The label that a text in ASCII stands for. -/
def decode? (text : List Char) : Option (List Char) :=
  let (basic, digits) := cutAtLast text
  decodeCodes digits.length digits 128 0 72 basic

end Punycode

end WalletEvents
