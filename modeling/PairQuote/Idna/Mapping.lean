import PairQuote.Idna.Table
import PairQuote.Unicode.Composition

/-! # Mapping of domain names

Before a domain name is looked at, capital letters, wide letters and other variants are
replaced by plain ones, characters that do not count are left out, and what remains is
composed.
-/
namespace PairQuote.Idna

open Unicode

/-- The ranges of characters that are taken as they are. -/
def validRanges : List Range := ranges validTable

/-- The ranges of characters that are left out. -/
def ignoredRanges : List Range := ranges ignoredTable

/-- The ranges of characters that are replaced, with the replacements. -/
def mappedRanges : List (Range × List Nat) := rangesWith mappedTable

/-- The ranges in which every second character is replaced. -/
def alternatingRanges : List (Range × List Nat) := rangesWith alternatingTable

/-- Whether a character is taken as it is. -/
def isValid (c : Char) : Bool :=
  if c.toNat < 0x80 then !c.isUpper else inRanges validRanges c

/-- What replaces a character of a range: it is as far from the first number as the character
is from the start of the range. -/
def shifted (c : Char) (entry : Range × List Nat) : List Char :=
  match entry.2 with
  | [] => []
  | n :: more => ((n + (c.toNat - entry.1.first)) :: more).map Char.ofNat

/-- What replaces a character, if anything does. -/
def replacement? (c : Char) : Option (List Char) :=
  let second := (findRange? alternatingRanges c).filter fun entry =>
    (c.toNat - entry.1.first) % 2 = 0
  (second.or (findRange? mappedRanges c)).map (shifted c)

/-- What a character stands for in a domain name; nothing if it cannot stand there. -/
def mapped? (c : Char) : Option (List Char) :=
  if isValid c then some [c]
  else if inRanges ignoredRanges c then some []
  else replacement? c

/-- What a row of characters stands for in a domain name. -/
def normalized? (row : List Char) : Option (List Char) :=
  (row.mapM mapped?).map fun parts => composed parts.flatten

end PairQuote.Idna
