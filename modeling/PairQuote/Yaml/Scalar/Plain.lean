import PairQuote.Yaml.Cursor

/-! # Plain scalars

A plain scalar is text without quotes.  It ends before a colon that a blank follows, before
a comment, before a line that is indented less, and in flow collections before brackets and
commas.  It may go on in further lines: one line break between two words stands for a
space, of several the first stands for nothing.
-/
namespace PairQuote.Yaml

/-- A scalar that is being read: its text so far, backwards, and the spaces and line breaks
that count only if more text follows. -/
structure Folded where
  text : List Char := []
  blanks : List Char := []
  breaks : Nat := 0

namespace Folded

/-- What line breaks between words stand for. -/
def joint (breaks : Nat) : List Char :=
  if breaks = 1 then [' '] else List.replicate (breaks - 1) '\n'

/-- Adds text after what has been held back. -/
def add (f : Folded) (run : List Char) : Folded :=
  let held := if f.breaks = 0 then f.blanks else joint f.breaks
  { text := run.reverse ++ (held.reverse ++ f.text) }

end Folded

/-- Whether a plain scalar ends before a character. -/
def endsPlain (inFlow : Bool) (c : Char) (after : List Char) : Bool :=
  isBlank c || isBreak c ||
    (c == ':' && (endsWord after || (inFlow && after.head?.any isFlow))) ||
    (inFlow && isFlow c)

/-- The characters of a plain scalar up to the next blank. -/
def plainRun (inFlow : Bool) : List Char → List Char
  | [] => []
  | c :: row => if endsPlain inFlow c row then [] else c :: plainRun inFlow row

/-- Takes the blanks and line breaks after a word.  A tab in the indentation is taken only
on an empty line. -/
def plainGap (indent : Int) : (fuel : Nat) → Cursor → Folded → Option (Cursor × Folded)
  | 0, _, _ => none
  | fuel + 1, c, f =>
    match c.rest with
    | ch :: _ =>
      if isBreak ch then
        let breaks := if c.fresh then f.breaks + 1 else max f.breaks 1
        plainGap indent fuel c.nextLine { f with blanks := [], breaks := breaks }
      else if !isBlank ch then some (c, f)
      else if !c.fresh then
        plainGap indent fuel (c.skipBlanks 1) { f with blanks := f.blanks ++ [ch] }
      else if ch == '\t' && decide (c.column < indent) then do
        let (_, c) ← c.skipGap?
        guard (endsLine c.rest)
        plainGap indent fuel c f
      else plainGap indent fuel (c.skipBlanks 1) f
    | [] => some (c, f)

/-- Reads a plain scalar whose further lines are indented as given. -/
def readPlain (inFlow : Bool) (indent : Int) : (fuel : Nat) → Cursor → Folded →
    Option (Cursor × Folded)
  | 0, _, _ => none
  | fuel + 1, c, f =>
    if c.atMarker || c.sees '#' then some (c, f)
    else if inFlow && c.sees '-' && (c.rest.drop 1).head?.any isFlow then none
    else
      let run := plainRun inFlow c.rest
      let f := if run.isEmpty then f else f.add run
      let c := c.skip run.length
      if c.atEnd || !endsWord c.rest then some (c, f)
      else
        match plainGap indent (c.rest.length + 1) c f with
        | some (c, f) =>
          if !inFlow && decide (c.column < indent) then some (c, f)
          else readPlain inFlow indent fuel c f
        | none => none

/-- The text of the plain scalar at a place, and the place after it. -/
def plainScalar? (inFlow : Bool) (indent : Int) (c : Cursor) : Option (String × Cursor) :=
  if inFlow && decide (c.column < indent) then none
  else
    (readPlain inFlow indent (c.rest.length + 1) c {}).map fun (c, f) =>
      (String.ofList f.text.reverse, c)

end PairQuote.Yaml
