import PairQuote.Idna.Mapping
import PairQuote.Idna.Punycode
import PairQuote.Unicode.Direction
import PairQuote.Unicode.Joining

/-! # International domain names

A domain name is a row of **labels** between points, in any script.  It is mapped first;
then labels that start with `xn--` are read as Punycode, and must be in mapped form already.

A label must not start with a mark; a joiner that shows nothing must stand where it changes
how letters join; and once a name has a letter from right to left, or an Arabic number, each
label is written in one direction.
-/
namespace PairQuote.Idna

open Unicode

/-! ### Joiners -/

/-- Whether the first character of a row that is not transparent is of a kind. -/
def nextIs (kind : Char → Bool) : List Char → Bool
  | [] => false
  | c :: row => kind c || (isTransparent c && nextIs kind row)

/-- Whether a character between two rows, the first of which is backwards, can stand there.
Both joiners can follow a virama; the one that keeps letters apart can also stand between
letters that join. -/
def canStand (before : List Char) (c : Char) (after : List Char) : Bool :=
  if c.toNat = 0x200C then
    before.head?.any isVirama || (nextIs joinsAfter before && nextIs joinsBefore after)
  else if c.toNat = 0x200D then before.head?.any isVirama
  else true

/-- Whether all joiners behind a row, which is backwards, can stand where they do. -/
def joinersStand : (before : List Char) → List Char → Bool
  | _, [] => true
  | before, c :: after => canStand before c after && joinersStand (c :: before) after

/-! ### Directions -/

/-- Whether a row of directions is that of a label from left to right. -/
def runsRight (last : Direction) (others : List Direction) : Bool :=
  (last == .left || last == .europeanNumber) &&
    others.all fun d => d != .right && d != .arabicNumber

/-- Whether a row of directions is that of a label from right to left: its numbers are of one
kind. -/
def runsLeft (last : Direction) (others : List Direction) : Bool :=
  (last == .right || last == .europeanNumber || last == .arabicNumber) &&
    others.all (· != .left) &&
    !((last :: others).contains .europeanNumber && (last :: others).contains .arabicNumber)

/-- Whether a label is written in one direction, that of its first character.  Marks at its
end do not count. -/
def hasOneDirection (label : List Char) : Bool :=
  match label.map Direction.of with
  | [] => true
  | first :: others =>
    if first ≠ .left ∧ first ≠ .right then false
    else
      match others.reverse.dropWhile (· == .mark) with
      | [] => true
      | last :: others => if first = .left then runsRight last others else runsLeft last others

/-- Whether a character makes a domain name one of two directions. -/
def isFromRight (c : Char) : Bool :=
  Direction.of c == .right || Direction.of c == .arabicNumber

/-! ### Labels -/

/-- The most characters that a label in Punycode has behind its sign. -/
def maxEncoded : Nat := 2000

/-- The most characters that a label beyond the basic Latin alphabet has. -/
def maxDecoded : Nat := 1000

/-- Reads a label behind the sign of Punycode.  The text must be in mapped form. -/
def decoded? (forbidden : Char → Bool) (row : List Char) : Option (List Char) := do
  guard (row.getLast?.any (· ≠ '-') && decide (row.length ≤ maxEncoded))
  let label ← Punycode.decode? row
  guard (label.all fun c => isValid c && c ≠ '.' && !forbidden c)
  guard (composed label = label)
  return label

/-- Whether a label can stand in a domain name. -/
def isLabel (label : List Char) : Bool :=
  !label.head?.any isMark && joinersStand [] label &&
    (label.all (·.toNat < 0x80) || decide (label.length ≤ maxDecoded))

/-- The label that a mapped row stands for. -/
def label? (forbidden : Char → Bool) (row : List Char) : Option (List Char) :=
  let label := match row with
    | 'x' :: 'n' :: '-' :: '-' :: row => decoded? forbidden row
    | row => some row
  label.filter isLabel

/-- The labels of a domain name, none of whose characters is a forbidden one. -/
def labels? (forbidden : Char → Bool) (name : List Char) : Option (List (List Char)) := do
  let name ← normalized? name
  guard !(name.any fun c => c ≠ '.' && forbidden c)
  let labels ← (Text.pieces '.' name).mapM (label? forbidden)
  guard (labels.all hasOneDirection || !labels.any fun label => label.any isFromRight)
  return labels

end PairQuote.Idna
