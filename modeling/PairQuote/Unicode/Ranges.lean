import PairQuote.Text.Digits
import PairQuote.Text.Pieces

/-! # Ranges of characters

The tables of properties of characters are written as text: items between blanks, each of
which is a character or a range of them, by their numbers in base sixteen, and perhaps a
colon and further numbers.
-/
namespace PairQuote.Unicode

/-- The characters from one number to another. -/
structure Range where
  first : Nat
  last : Nat

/-- Whether a character is in a range. -/
def Range.contains (r : Range) (c : Char) : Bool := r.first ≤ c.toNat && c.toNat ≤ r.last

/-- The range that an item stands for. -/
def Range.ofItem? (item : List Char) : Option Range := do
  let (first, last) := Text.cut '-' item
  let n ← Text.valueOf? 16 first
  match last with
  | none => return ⟨n, n⟩
  | some last => return ⟨n, ← Text.valueOf? 16 last⟩

/-- The items of a table. -/
def items (table : String) : List (List Char) :=
  let row := table.toList.map fun c => if c = '\n' then ' ' else c
  (Text.pieces ' ' row).filter (!·.isEmpty)

/-- The ranges of a table. -/
def ranges (table : String) : List Range := (items table).filterMap Range.ofItem?

/-- Whether a character is in one of some ranges. -/
def inRanges (rs : List Range) (c : Char) : Bool := rs.any (·.contains c)

/-- The ranges of a table, each with the numbers behind its colon, between points. -/
def rangesWith (table : String) : List (Range × List Nat) :=
  (items table).filterMap fun item => do
    let (range, numbers) := Text.cut ':' item
    let numbers ← (Text.pieces '.' (numbers.getD [])).mapM (Text.valueOf? 16)
    return (← Range.ofItem? range, numbers)

/-- The numbers of the range that a character is in, and the range. -/
def findRange? (rs : List (Range × List Nat)) (c : Char) : Option (Range × List Nat) :=
  rs.find? fun entry => entry.1.contains c

end PairQuote.Unicode
