import PairQuote.Text.Digits
import PairQuote.Text.Pieces

/-! # Decimal numerals

A **numeral** is a decimal with an optional sign, fraction and exponent, of which the whole
part or the fraction may be missing but not both, or one of the words for infinity and for
the undefined number in either case.  Reading keeps the decimal exact, so that it can be
rounded to any format later.
-/
namespace PairQuote.Text

/-- What a numeral stands for. -/
inductive Numeral where
  /-- The number `± mantissa · 10 ^ exponent`. -/
  | decimal (negative : Bool) (mantissa : Nat) (exponent : Int)
  | infinite (negative : Bool)
  | undefined
  deriving DecidableEq, Repr

/-- The sign in front of a row and the rest. -/
def cutSign : List Char → Bool × List Char
  | '-' :: rest => (true, rest)
  | '+' :: rest => (false, rest)
  | row => (false, row)

namespace Numeral

/-- The exponent of a decimal: nothing, or a letter and an integer. -/
def exponentOf? : List Char → Option Int
  | [] => some 0
  | c :: rest =>
    if c = 'e' ∨ c = 'E' then
      let (negative, digits) := cutSign rest
      if digits.isEmpty then none
      else (valueOf? 10 digits).map fun n => if negative then -(n : Int) else n
    else none

/-- Reads a decimal without its sign. -/
def decimalOf? (negative : Bool) (row : List Char) : Option Numeral := do
  let whole := row.takeWhile (·.isDigit)
  let rest := row.drop whole.length
  let fraction := match rest with
    | '.' :: rest => rest.takeWhile (·.isDigit)
    | _ => []
  let rest := match rest with
    | '.' :: rest => rest.drop fraction.length
    | _ => rest
  guard (!whole.isEmpty || !fraction.isEmpty)
  let mantissa ← valueOf? 10 (whole ++ fraction)
  let exponent ← exponentOf? rest
  return .decimal negative mantissa (exponent - fraction.length)

/-- Reads a numeral. -/
def ofRow? (row : List Char) : Option Numeral :=
  let (negative, rest) := cutSign row
  let word := String.ofList (lower rest)
  if word = "inf" ∨ word = "infinity" then some (.infinite negative)
  else if word = "nan" then some .undefined
  else decimalOf? negative rest

end Numeral

end PairQuote.Text
