import PairQuote.Word
import PairQuote.Address
import PairQuote.Rpc.Ending

/-! # Numbers and words on the wire

A node writes numbers as **quantities**: `0x` and a row of digits of base sixteen.  What
this side sends is minimal, so zero is `0x0` and nothing else starts with a zero; what it
takes may have zeros in front and may lack the marker.  Blanks among the digits are skipped.
They still count as places of the row, which is read two places at a time, so that with an odd
number of blanks the last digit is left over and lost.

The word of a slot comes as **data**: digits from which every `0x` is taken out, wherever it
stands, and in front of which zeros are put where there are fewer than sixty-four.  They are
read two at a time, as bytes.  If these are not thirty-two, reading them stops.

To take out a `0x` may bring together another one.  What is made of it in front of all digits is
left open (`FrontMarker`); among them it is no digit.
-/
namespace PairQuote.Rpc

/-- A number as it is sent. -/
def quantity (n : Nat) : String := Text.hexText n

/-- Whether a character among digits is skipped. -/
def isSkipped (c : Char) : Bool := c == ' ' || c == '\t' || c == '\n' || c == '\r'

/-- The number in a text of at most `width` places. -/
def ofQuantity? (width : Nat) (text : String) : Option Nat :=
  let row := match text.toList with
    | '0' :: 'x' :: row => row
    | row => row
  if row.isEmpty ∨ width < row.length then none
  else
    (Text.valueOf? 16 (row.filter (!isSkipped ·))).map fun n =>
      if row.countP isSkipped % 2 = 1 then n / 16 else n

/-- The number of a block. -/
def blockOf? (text : String) : Option UInt64 :=
  (ofQuantity? 16 text).map UInt64.ofNat

/-- The number of a chain, which may be wider than any block number. -/
def chainIdOf? (text : String) : Option Nat := ofQuantity? 64 text

/-- The row without its markers, which are taken out from left to right. -/
def withoutMarkers : List Char → List Char
  | '0' :: 'x' :: row => withoutMarkers row
  | c :: row => c :: withoutMarkers row
  | [] => []

/-- What becomes of a marker in front of digits that all markers were taken out of. -/
inductive FrontMarker where
  /-- It is taken for what it is, no digit. -/
  | refused
  /-- It is dropped. -/
  | dropped

/-- The row that is left to be read. -/
def FrontMarker.strip : FrontMarker → List Char → List Char
  | dropped, '0' :: 'x' :: row => row
  | _, row => row

/-- The row with zeros in front, if it has fewer than sixty-four places. -/
def padded (row : List Char) : List Char := List.replicate (64 - row.length) '0' ++ row

/-- The word in a text, if there is one. -/
def wordOf (front : FrontMarker) (text : String) : Ending (Option Word) :=
  let row := front.strip (padded (withoutMarkers text.toList))
  match Text.valueOf? 16 row with
  | none => .returned none
  | some n =>
    if row.length % 2 = 1 then .returned none
    else if row.length = 64 then .returned (some (Word.ofNat n))
    else .stopped

end PairQuote.Rpc
