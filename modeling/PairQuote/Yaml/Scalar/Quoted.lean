import PairQuote.Text.Digits
import PairQuote.Text.Utf8
import PairQuote.Yaml.Scalar.Plain

/-! # Quoted scalars

Between single quotation marks two of them stand for one and all else for itself; between
double ones a backslash starts an escape.  Both may go on in further lines like plain
scalars; after a backslash a line break stands for nothing.
-/
namespace PairQuote.Yaml

/-- The character of a letter after a backslash. -/
def unescape? : Char → Option Char
  | '0' => some (Char.ofNat 0)
  | 'a' => some (Char.ofNat 7)
  | 'b' => some (Char.ofNat 8)
  | 't' => some '\t'
  | '\t' => some '\t'
  | 'n' => some '\n'
  | 'v' => some (Char.ofNat 11)
  | 'f' => some (Char.ofNat 12)
  | 'r' => some '\r'
  | 'e' => some (Char.ofNat 27)
  | ' ' => some ' '
  | '"' => some '"'
  | '/' => some '/'
  | '\\' => some '\\'
  | 'N' => some (Char.ofNat 0x85)
  | '_' => some (Char.ofNat 0xA0)
  | 'L' => some (Char.ofNat 0x2028)
  | 'P' => some (Char.ofNat 0x2029)
  | _ => none

/-- How many digits follow a letter after a backslash. -/
def escapeWidth (c : Char) : Nat :=
  if c = 'x' then 2 else if c = 'u' then 4 else if c = 'U' then 8 else 0

/-- The character of the escape at the start of a row, from behind its backslash, and how
long the escape is. -/
def escape? : List Char → Option (Char × Nat)
  | [] => none
  | e :: row =>
    let width := escapeWidth e
    if width = 0 then (unescape? e).map fun c => (c, 1)
    else if row.length < width then none
    else ((Text.valueOf? 16 (row.take width)).bind Text.charOf?).map fun c => (c, width + 1)

/-- What stops a run of characters in a quoted scalar. -/
inductive QuoteStop where
  /-- The closing quotation mark, a blank, a line break or the end. -/
  | plain
  /-- A backslash before a line break. -/
  | escapedBreak

/-- The characters between single quotation marks up to the next blank, and how many
characters of the row they take. -/
def singleRun : List Char → List Char × Nat
  | '\'' :: '\'' :: row => ('\'' :: (singleRun row).1, (singleRun row).2 + 2)
  | [] => ([], 0)
  | c :: row =>
    if c = '\'' ∨ isBlank c ∨ isBreak c then ([], 0)
    else (c :: (singleRun row).1, (singleRun row).2 + 1)

/-- The characters between double quotation marks up to the next blank, how many characters
of the row they take, and what stops them. -/
def doubleRun : (fuel : Nat) → List Char → Option (List Char × Nat × QuoteStop)
  | 0, _ => none
  | _, [] => some ([], 0, .plain)
  | fuel + 1, c :: row =>
    if c = '"' ∨ isBlank c ∨ isBreak c then some ([], 0, .plain)
    else if c = '\\' then
      if row.head?.any isBreak then some ([], 0, .escapedBreak)
      else do
        let (e, n) ← escape? row
        let (run, m, stop) ← doubleRun fuel (row.drop n)
        some (e :: run, m + n + 1, stop)
    else do
      let (run, m, stop) ← doubleRun fuel row
      some (c :: run, m + 1, stop)

/-- Takes the blanks and line breaks in a quoted scalar: the blanks in front of the first
line break, and how many line breaks there are.  Behind an escaped break, or the first one,
blanks do not count. -/
def quotedGap (indent : Int) : (fuel : Nat) → (broken : Bool) → Cursor → List Char → Nat →
    Option (Cursor × List Char × Nat)
  | 0, _, _, _, _ => none
  | fuel + 1, broken, c, blanks, breaks =>
    match c.rest with
    | ch :: _ =>
      if isBreak ch then quotedGap indent fuel true c.nextLine [] (breaks + 1)
      else if !isBlank ch then some (c, blanks, breaks)
      else if !broken then quotedGap indent fuel false (c.skipBlanks 1) (blanks ++ [ch]) breaks
      else if ch == '\t' && decide (c.column < indent) then none
      else quotedGap indent fuel true (c.skipBlanks 1) blanks breaks
    | [] => some (c, blanks, breaks)

/-- Reads a quoted scalar up to its closing quotation mark; the text is collected
backwards. -/
def readQuoted (single : Bool) (indent : Int) : (fuel : Nat) → Cursor → List Char →
    Option (Cursor × List Char)
  | 0, _, _ => none
  | fuel + 1, c, text =>
    if c.atMarker || c.atEnd || decide (c.column < indent) then none
    else do
      let (run, n, stop) ←
        if single then
          let (run, n) := singleRun c.rest
          some (run, n, QuoteStop.plain)
        else doubleRun (c.rest.length + 1) c.rest
      let text := run.reverse ++ text
      let c := c.skip n
      match stop with
      | .escapedBreak =>
        let c := (c.skip 1).nextLine
        if c.sees '"' then some (c, text)
        else do
          let (c, _, breaks) ← quotedGap indent (c.rest.length + 1) true c [] 0
          readQuoted single indent fuel c (List.replicate breaks '\n' ++ text)
      | .plain =>
        if c.sees (if single then '\'' else '"') then some (c, text)
        else do
          let (c, blanks, breaks) ← quotedGap indent (c.rest.length + 1) false c [] 0
          let held := if breaks = 0 then blanks else Folded.joint breaks
          readQuoted single indent fuel c (held.reverse ++ text)

/-- What may stand on the line behind a quoted scalar: nothing, the colon that makes it a
key, or in flow collections the next indicator. -/
def mayFollowQuoted (inFlow sameLine : Bool) (row : List Char) : Bool :=
  match row with
  | [] => true
  | c :: _ =>
    isBreak c || (c == ':' && (inFlow || sameLine)) ||
      (inFlow && (c == ',' || c == ']' || c == '\x7d'))

/-- The text of the quoted scalar at a place, and the place after it and its blanks. -/
def quotedScalar? (single inFlow : Bool) (indent : Int) (c : Cursor) :
    Option (String × Cursor) := do
  let (after, text) ← readQuoted single indent (c.rest.length + 1) (c.skip 1) []
  let (_, after) ← (after.skip 1).skipGap?
  guard (mayFollowQuoted inFlow (after.line == c.line) after.rest)
  return (String.ofList text.reverse, after)

end PairQuote.Yaml
