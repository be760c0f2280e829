import PairQuote.Binary64
import PairQuote.Text.Numeral

/-! # Binary numbers from numerals -/
namespace PairQuote.Binary64

/-- The number nearest to what a numeral stands for. -/
def ofNumeral : Text.Numeral → Binary64
  | .decimal negative mantissa exponent => ofDecimal negative mantissa exponent
  | .infinite negative => .infinite negative
  | .undefined => .undefined

end PairQuote.Binary64
