/-! # Places in a YAML text

A **cursor** is a place in a text: the characters that are still to be read and where in
the text they stand.  A line is **fresh** until something other than a blank has been read
on it.  Lines end with a line feed, a carriage return or both in this order.

A text ends at its first null character, if it has one.
-/
namespace PairQuote.Yaml

/-! ### Kinds of characters -/

/-- A space or a tab. -/
def isBlank (c : Char) : Bool := c == ' ' || c == '\t'

/-- A character that ends a line. -/
def isBreak (c : Char) : Bool := c == '\n' || c == '\r'

/-- The brackets and the comma of flow collections. -/
def isFlow (c : Char) : Bool := ",[]\x7b\x7d".toList.contains c

/-- A character of a word: a letter, a digit, a hyphen or an underscore. -/
def isWord (c : Char) : Bool := c.isAlphanum || c == '-' || c == '_'

/-- A character that can stand in the name of an anchor. -/
def isAnchorChar (c : Char) : Bool :=
  !isBlank c && !isBreak c && !isFlow c && c.toNat != 0xFEFF

/-- Whether a row is at its end or starts with a blank or a line break. -/
def endsWord (row : List Char) : Bool := row.head?.all fun c => isBlank c || isBreak c

/-- Whether a row is at its end or starts with a line break. -/
def endsLine (row : List Char) : Bool := row.head?.all isBreak

/-- Whether a row starts with a character. -/
def startsWith (c : Char) (row : List Char) : Bool := row.head? == some c

/-- Whether a row starts with three times a character as a word of its own. -/
def startsMarker (c : Char) (row : List Char) : Bool :=
  [c, c, c].isPrefixOf row && endsWord (row.drop 3)

/-- A place in a text. -/
structure Cursor where
  rest : List Char
  index : Nat := 0
  line : Nat := 0
  column : Nat := 0
  fresh : Bool := true
  deriving Inhabited

namespace Cursor

/-- The start of a text. -/
def start (text : String) : Cursor := { rest := text.toList.takeWhile (·.toNat ≠ 0) }

/-- Whether the text ends here. -/
def atEnd (c : Cursor) : Bool := c.rest.isEmpty

/-- Whether the next character is a given one. -/
def sees (c : Cursor) (ch : Char) : Bool := startsWith ch c.rest

/-- The place after some blanks. -/
def skipBlanks (n : Nat) (c : Cursor) : Cursor :=
  { c with rest := c.rest.drop n, index := c.index + n, column := c.column + n }

/-- The place after some characters, none of which ends a line. -/
def skip (n : Nat) (c : Cursor) : Cursor := { c.skipBlanks n with fresh := n == 0 && c.fresh }

/-- The start of the next line, from a line break. -/
def nextLine (c : Cursor) : Cursor :=
  let n := if ['\r', '\n'].isPrefixOf c.rest then 2 else 1
  { rest := c.rest.drop n, index := c.index + n, line := c.line + 1, column := 0, fresh := true }

/-- The end of the line. -/
def skipLine (c : Cursor) : Cursor := c.skip (c.rest.takeWhile (!isBreak ·)).length

/-- Whether a line with the marker of a start or an end of a document starts here. -/
def atMarker (c : Cursor) : Bool :=
  c.column == 0 && (startsMarker '-' c.rest || startsMarker '.' c.rest)

/-- What stands between two parts on a line. -/
structure Gap where
  tab : Bool
  space : Bool

/-- The place after blanks and a comment, which is separated by a blank. -/
def skipGap? (c : Cursor) : Option (Gap × Cursor) :=
  let blanks := c.rest.takeWhile isBlank
  let after := c.skipBlanks blanks.length
  let gap : Gap := ⟨blanks.contains '\t', blanks.contains ' '⟩
  if !after.sees '#' then some (gap, after)
  else if blanks.isEmpty then none
  else some (gap, after.skipLine)

end Cursor

end PairQuote.Yaml
