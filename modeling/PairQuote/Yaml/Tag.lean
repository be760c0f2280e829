import PairQuote.Text.Digits
import PairQuote.Yaml.Token
import PairQuote.Yaml.Scalar.Quoted

/-! # Tags, anchors and directives

A **tag** is the type of a node: `!<…>` in full, or a handle and a suffix, where the handle
is `!`, `!!` or a word between two exclamation marks.  An **anchor** is its name, and an
**alias** repeats a named node.  A **directive** is a line about the whole document: its
version, what a handle stands for, or anything else, which is not used.
-/
namespace PairQuote.Yaml

/-- A character that can stand in a tag in full. -/
def isUriChar (c : Char) : Bool := c.isAlphanum || "-#;/?:@&=+$,_.!~*'()[]%".toList.contains c

/-- A character that can stand in the suffix of a tag. -/
def isTagChar (c : Char) : Bool := isUriChar c && !isFlow c && c != '!'

/-- The byte of the escape at the start of a row. -/
def escapedByte? : List Char → Option Nat
  | '%' :: high :: low :: _ => Text.valueOf? 16 [high, low]
  | _ => none

/-- The character of the escapes at the start of a row, and their length.  The bytes of a
pair are taken for one number; three or more would pass the greatest character. -/
def uriEscape? (row : List Char) : Option (Char × Nat) := do
  let lead ← escapedByte? row
  if lead < 0x80 then return (Char.ofNat lead, 3)
  guard (0xC0 ≤ lead && decide (lead < 0xE0))
  let next ← escapedByte? (row.drop 3)
  guard (0x80 ≤ next && decide (next < 0xC0))
  let c ← Text.charOf? (lead * 0x100 + next)
  return (c, 6)

/-- The text at the start of a row of characters of a kind and escapes, and how many
characters of the row it takes. -/
def uriRun (kind : Char → Bool) : (fuel : Nat) → List Char → Option (List Char × Nat)
  | 0, _ => none
  | _, [] => some ([], 0)
  | fuel + 1, c :: row =>
    if !kind c then some ([], 0)
    else if c = '%' then do
      let (e, n) ← uriEscape? (c :: row)
      let (run, m) ← uriRun kind fuel ((c :: row).drop n)
      return (e :: run, m + n)
    else do
      let (run, m) ← uriRun kind fuel row
      return (c :: run, m + 1)

/-- The text of characters of a kind at a place, and the place after it. -/
def Cursor.uri? (kind : Char → Bool) (c : Cursor) : Option (String × Cursor) :=
  (uriRun kind (c.rest.length + 1) c.rest).map fun (run, n) => (String.ofList run, c.skip n)

/-- The word of a tag at a place, with its exclamation marks: one in front and perhaps one
behind. -/
def Cursor.handle? (c : Cursor) : Option (String × Cursor) :=
  match c.rest with
  | '!' :: row =>
    let word := row.takeWhile isWord
    let closed := startsWith '!' (row.drop word.length)
    let text := '!' :: (word ++ if closed then ['!'] else [])
    some (String.ofList text, c.skip text.length)
  | _ => none

/-- Whether a handle is closed by a second exclamation mark. -/
def isClosedHandle (handle : String) : Bool :=
  handle.length ≥ 2 && handle.toList.getLast? == some '!'

/-- The handle and the suffix of the tag at a place, and the place after it. -/
def Cursor.tagParts? (c : Cursor) : Option (String × String × Cursor) := do
  if ['!', '<'].isPrefixOf c.rest then
    let (suffix, after) ← (c.skip 2).uri? isUriChar
    guard (after.sees '>')
    return ("", suffix, after.skip 1)
  let (handle, after) ← c.handle?
  let (suffix, after) ← after.uri? isTagChar
  if isClosedHandle handle then
    guard (!suffix.isEmpty)
    return (handle, suffix, after)
  let suffix := String.ofList (handle.toList.drop 1) ++ suffix
  return if suffix.isEmpty then ("", "!", after) else ("!", suffix, after)

/-- The tag at a place, and the place after it. -/
def tag? (inFlow : Bool) (c : Cursor) : Option (Token × Cursor) := do
  let (handle, suffix, after) ← c.tagParts?
  guard (endsWord after.rest || (inFlow && after.rest.head?.any isFlow))
  return (.tag handle suffix c.column, after)

/-- The name behind the sign at a place, and the place after it. -/
def anchorName? (c : Cursor) : Option (String × Cursor) :=
  let name := (c.rest.drop 1).takeWhile isAnchorChar
  if name.isEmpty then none else some (String.ofList name, c.skip (name.length + 1))

/-! ### Directives -/

/-- The place after blanks. -/
def Cursor.pastBlanks (c : Cursor) : Cursor := c.skipBlanks (c.rest.takeWhile isBlank).length

/-- The place after a part of a version: one to nine digits. -/
def Cursor.pastVersionPart? (c : Cursor) : Option Cursor :=
  let n := (c.rest.takeWhile (·.isDigit)).length
  if n = 0 ∨ 9 < n then none else some (c.skip n)

/-- What stands behind the name of a version directive. -/
def versionDirective? (c : Cursor) : Option (Token × Cursor) := do
  let c ← c.pastBlanks.pastVersionPart?
  guard (c.sees '.')
  let c ← (c.skip 1).pastVersionPart?
  return (.versionDirective, c)

/-- The replacement of a handle: its first character is an exclamation mark or one of a
suffix. -/
def replacement? (c : Cursor) : Option (String × Cursor) :=
  if c.rest.head?.any fun ch => ch == '!' || isTagChar ch then c.uri? isUriChar else none

/-- What stands behind the name of a tag directive. -/
def tagDirective? (c : Cursor) : Option (Token × Cursor) := do
  let (handle, c) ← c.pastBlanks.handle?
  guard (handle == "!" || isClosedHandle handle)
  let (replacement, c) ← replacement? c.pastBlanks
  guard (endsWord c.rest)
  return (.tagDirective handle replacement, c)

/-- The directive at a place, and the place after its line. -/
def directive? (c : Cursor) : Option (Token × Cursor) := do
  let name := (c.rest.drop 1).takeWhile isWord
  guard (!name.isEmpty)
  let after := c.skip (name.length + 1)
  guard (endsWord after.rest)
  let (token, after) ←
    if name = "YAML".toList then versionDirective? after
    else if name = "TAG".toList then tagDirective? after
    else some (.tagDirective "" "", after.skipLine)
  let (_, after) ← after.skipGap?
  guard (endsLine after.rest)
  return (token, if after.atEnd then after else after.nextLine)

end PairQuote.Yaml
