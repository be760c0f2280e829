import PairQuote.Text.Numeral

/-! # Integers with a sign

The decimal text of an integer, and the integers of 64 bits in text.
-/
namespace PairQuote.Text

/-- Whether an integer fits 64 bits with a sign. -/
def fitsInt64 (n : Int) : Bool :=
  decide (-0x8000000000000000 ≤ n) && decide (n < 0x8000000000000000)

/-- The decimal text of an integer. -/
def integer (n : Int) : String :=
  if n < 0 then "-" ++ decimal n.natAbs else decimal n.natAbs

/-- The integer of 64 bits that a row of digits stands for, with a sign or without. -/
def int64? (base : Nat) (row : List Char) : Option Int := do
  let (negative, digits) := cutSign row
  guard !digits.isEmpty
  let n ← valueOf? base digits
  let n : Int := if negative then -n else n
  guard (fitsInt64 n)
  return n

end PairQuote.Text
