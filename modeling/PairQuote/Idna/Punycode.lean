import PairQuote.Text.Utf8

/-! # Punycode

Text in letters, digits and hyphens alone: the basic characters of the text, a hyphen, and
then a row of **deltas** in base thirty-six with digits `a` to `z` and `0` to `9`.  Each
delta says how far to count, through all places in the text and then on to the next
character, before the next character is inserted.

Numbers are held in 32 bits; a row that would pass them cannot be read.
-/
namespace PairQuote.Idna.Punycode

/-- The value of a digit. -/
def digit? (c : Char) : Option Nat :=
  if 'a' ≤ c ∧ c ≤ 'z' then some (c.toNat - 97)
  else if 'A' ≤ c ∧ c ≤ 'Z' then some (c.toNat - 65)
  else if '0' ≤ c ∧ c ≤ '9' then some (c.toNat - 22)
  else none

/-- A number that fits 32 bits. -/
def word? (n : Nat) : Option Nat := if n < UInt32.size then some n else none

/-- The least digit that ends no delta at a place, by the bias of the deltas before it. -/
def threshold (bias place : Nat) : Nat :=
  if place ≤ bias then 1 else if bias + 26 ≤ place then 26 else place - bias

/-- Reads a delta onto a count; `place` is thirty-six at its first digit. -/
def readDelta? (bias : Nat) : (place weight count : Nat) → List Char → Option (Nat × List Char)
  | _, _, _, [] => none
  | place, weight, count, c :: row => do
    let d ← digit? c
    let count ← word? (count + (← word? (d * weight)))
    let t := threshold bias place
    if d < t then return (count, row)
    readDelta? bias (place + 36) (← word? (weight * (36 - t))) count row

/-- Divides a number until it is small, and counts. -/
def scaleDown : (fuel : Nat) → Nat → Nat → Nat × Nat
  | 0, delta, k => (delta, k)
  | fuel + 1, delta, k => if 455 < delta then scaleDown fuel (delta / 35) (k + 36) else (delta, k)

/-- The bias after a delta, in a text that has grown to a length. -/
def biasAfter (delta length : Nat) (first : Bool) : Nat :=
  let delta := if first then delta / 700 else delta / 2
  let (delta, k) := scaleDown 8 (delta + delta / length) 0
  k + 36 * delta / (delta + 38)

/-- Reads deltas and inserts their characters into a text. -/
def insertAll? : (fuel : Nat) → (code bias count : Nat) → (text row : List Char) →
    Option (List Char)
  | 0, _, _, _, _, _ => none
  | _, _, _, _, text, [] => some text
  | fuel + 1, code, bias, before, text, row => do
    let (count, row) ← readDelta? bias 36 1 before row
    let length := text.length + 1
    let code ← word? (code + count / length)
    let c ← Text.charOf? code
    let place := count % length
    let bias := biasAfter (count - before) length (before == 0)
    insertAll? fuel code bias (place + 1) (text.take place ++ c :: text.drop place) row

/-- The text of a row. -/
def decode? (row : List Char) : Option (List Char) :=
  let tail := (row.reverse.takeWhile (· ≠ '-')).reverse
  let head := row.take (row.length - tail.length - 1)
  let deltas := if head.isEmpty then row else tail
  insertAll? (deltas.length + 1) 0x80 72 0 head deltas

end PairQuote.Idna.Punycode
