import PairQuote.Text.Digits
import PairQuote.Text.Utf8

/-! # Percent-encoding

In a URL a `%` and two digits of base sixteen stand for a byte, and the bytes for text in
UTF-8.  A `%` that is not followed by two digits stands for itself.
-/
namespace PairQuote.Text

/-- Replaces every `%` with two digits by the byte they stand for. -/
def percentDecode : List Nat → List Nat
  | 0x25 :: a :: b :: rest =>
    match valueOf? 16 [Char.ofNat a, Char.ofNat b] with
    | some byte => byte :: percentDecode rest
    | none => 0x25 :: percentDecode (a :: b :: rest)
  | byte :: rest => byte :: percentDecode rest
  | [] => []

/-- The text that a percent-encoded row stands for. -/
def ofPercent (row : List Char) : List Char := ofUtf8 (percentDecode (toUtf8 row))

end PairQuote.Text
