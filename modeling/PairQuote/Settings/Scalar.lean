import PairQuote.Binary64.Numeral
import PairQuote.Settings.Value

/-! # Scalars in text

How plain text is taken for a value, and how a value is taken for what a setting needs.

Numbers in text are an integer of 64 bits with an optional sign, or a decimal with an
optional fraction and exponent, or the words for infinity and the undefined number.

A **numeric** setting takes integers, decimals to the nearest integer, truth values and
some words for them, and digits in text.  A **text** setting takes any scalar in its
decimal or verbal form.
-/
namespace PairQuote.Settings

/-- The floating-point number in a text. -/
def real? (row : List Char) : Option Binary64 :=
  (Text.Numeral.ofRow? row).map Binary64.ofNumeral

/-- What the text of an environment variable is taken for. -/
def Value.ofVariable (text : String) : Value :=
  let row := text.toList
  let word := String.ofList (Text.lower row)
  if word = "true" then .bool true
  else if word = "false" then .bool false
  else
    match Text.int64? 10 row with
    | some n => .int n
    | none =>
      match real? row with
      | some x => .real x
      | none => .text text

/-- The greatest number of 64 bits. -/
def maxNumber : Nat := UInt64.size - 1

/-- The number that a word or a row of digits stands for. -/
def numberOfText? (text : String) : Option Nat :=
  let word := String.ofList (Text.lower text.toList)
  if ["true", "on", "yes"].contains word then some 1
  else if ["false", "off", "no"].contains word then some 0
  else
    let digits := match text.toList with
      | '+' :: rest => rest
      | row => row
    if digits.isEmpty then none
    else (Text.valueOf? 10 digits).filter (· ≤ maxNumber)

namespace Value

/-- The number of 64 bits that a value is taken for. -/
def toNumber? : Value → Option Nat
  | .bool b => some (if b then 1 else 0)
  | .int n => if 0 ≤ n then some n.toNat else none
  | .real x => some (x.toNatSaturating maxNumber)
  | .text s => numberOfText? s
  | .null | .list | .table _ => none

/-- The number of `width` bits that a value is taken for. -/
def toNumberOf? (width : Nat) (v : Value) : Option Nat :=
  v.toNumber?.filter (· < Nat.pow 2 width)

/-- The text that a value is taken for. -/
def toText? : Value → Option String
  | .bool b => some (if b then "true" else "false")
  | .int n => some (Text.integer n)
  | .real x => some x.text
  | .text s => some s
  | .null | .list | .table _ => none

end Value

end PairQuote.Settings
