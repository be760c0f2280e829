import PairQuote.Yaml.Cursor

/-! # Block scalars

A block scalar is text by indentation.  Behind `|` every line break is kept; behind `>` one
between two lines that do not start with a blank stands for a space.  The indentation is
that of the first line with text, or given by a digit; a `-` drops the line breaks at the
end and a `+` keeps all of them, where otherwise one is kept.
-/
namespace PairQuote.Yaml

/-- What becomes of the line breaks at the end. -/
inductive Chomping where
  | clip
  | strip
  | keep
  deriving DecidableEq

/-- How a block scalar is written. -/
structure BlockHeader where
  chomping : Chomping := .clip
  increment : Nat := 0

/-- The chomping of a sign. -/
def chomping? : List Char → Option Chomping
  | '+' :: _ => some .keep
  | '-' :: _ => some .strip
  | _ => none

/-- The increment at the start of a row, if there is a digit; zero is none. -/
def increment? : List Char → Option (Option Nat)
  | c :: _ => if !c.isDigit then some none else if c = '0' then none else some (some (c.toNat - 48))
  | [] => some none

/-- The header at the start of a row and its length: a sign and a digit in either order, both
of which may be missing. -/
def blockHeader? (row : List Char) : Option (BlockHeader × Nat) :=
  match chomping? row with
  | some chomping =>
    (increment? (row.drop 1)).map fun
      | some n => (⟨chomping, n⟩, 2)
      | none => (⟨chomping, 0⟩, 1)
  | none =>
    (increment? row).map fun
      | some n =>
        match chomping? (row.drop 1) with
        | some chomping => (⟨chomping, n⟩, 2)
        | none => (⟨.clip, n⟩, 1)
      | none => ({}, 0)

/-- Skips empty lines and the spaces of an indentation; counts the lines. -/
def skipIndent (indent : Nat) : (fuel : Nat) → Cursor → Nat → Cursor × Nat
  | 0, c, breaks => (c, breaks)
  | fuel + 1, c, breaks =>
    let spaces := (c.rest.takeWhile (· == ' ')).length
    let c := c.skipBlanks (min spaces (indent - c.column))
    if c.rest.head?.any isBreak then skipIndent indent fuel c.nextLine (breaks + 1) else (c, breaks)

/-- Skips empty lines and all spaces up to the first text; counts the lines and finds the
greatest indentation. -/
def findIndent : (fuel : Nat) → Cursor → Nat → Nat → Cursor × Nat × Nat
  | 0, c, breaks, widest => (c, breaks, widest)
  | fuel + 1, c, breaks, widest =>
    let c := c.skipBlanks (c.rest.takeWhile (· == ' ')).length
    let widest := max widest c.column
    if c.rest.head?.any isBreak then findIndent fuel c.nextLine (breaks + 1) widest
    else (c, breaks, widest)

/-- A block scalar that is being read: its text so far, backwards, whether a line break has
been held back, how many empty lines follow it, and whether the last line started with a
blank. -/
structure BlockText where
  text : List Char := []
  heldBreak : Bool := false
  emptyLines : Nat := 0
  blankStart : Bool := false

/-- Adds a line after what has been held back. -/
def BlockText.addLine (b : BlockText) (literal : Bool) (row : List Char) : BlockText :=
  let blank := row.head?.any isBlank
  let folds := !literal && b.heldBreak && !b.blankStart && !blank
  let held :=
    if folds then (if b.emptyLines = 0 then [' '] else [])
    else if b.heldBreak then ['\n'] else []
  { text := row.reverse ++ (List.replicate b.emptyLines '\n' ++ (held ++ b.text))
    blankStart := blank }

/-- Reads the lines of a block scalar. -/
def blockLines (literal : Bool) (indent : Nat) : (fuel : Nat) → Cursor → BlockText →
    Cursor × BlockText
  | 0, c, b => (c, b)
  | fuel + 1, c, b =>
    if c.column ≠ indent ∨ c.atEnd ∨ (indent = 0 ∧ startsMarker '.' c.rest) then (c, b)
    else
      let row := c.rest.takeWhile (!isBreak ·)
      let b := b.addLine literal row
      let c := c.skip row.length
      if c.atEnd then (c, b)
      else
        let (c, emptyLines) := skipIndent indent (c.rest.length + 1) c.nextLine 0
        blockLines literal indent fuel c { b with heldBreak := true, emptyLines := emptyLines }

/-- The text of a block scalar after its last line, which may be cut short by the end. -/
def BlockText.finish (b : BlockText) (chomping : Chomping) (cutShort : Bool) : String :=
  let broken := if b.heldBreak then ['\n'] else []
  let ended := if cutShort then ['\n'] else []
  let empties := List.replicate b.emptyLines '\n'
  String.ofList <| b.text.reverse ++
    match chomping with
    | .strip => []
    | .clip => broken ++ ended
    | .keep => broken ++ ended ++ empties

/-- The text of a block scalar that has no lines before the end of the stream. -/
def emptyBlock (chomping : Chomping) (sameLine broken : Bool) (emptyLines : Nat) : String :=
  let first := if broken then "\n" else ""
  match chomping with
  | .strip => ""
  | .clip => if sameLine then "" else first
  | .keep =>
    if sameLine then ""
    else if emptyLines = 0 then first
    else String.ofList (List.replicate emptyLines '\n')

/-- The text of the block scalar at a place inside an indentation, and the place after it. -/
def blockScalar? (literal : Bool) (outer : Int) (c : Cursor) : Option (String × Cursor) := do
  let (header, n) ← blockHeader? (c.rest.drop 1)
  let (_, after) ← (c.skip (n + 1)).skipGap?
  guard (endsLine after.rest)
  let broken := !after.atEnd
  let after := if broken then after.nextLine else after
  guard (!after.sees '\t')
  let (after, emptyLines, indent) :=
    if header.increment = 0 then
      let (after, emptyLines, widest) := findIndent (after.rest.length + 1) after 0 0
      let indent := max widest (outer + 1).toNat
      (after, emptyLines, if 0 < outer then max indent 1 else indent)
    else
      let indent := if 0 ≤ outer then outer.toNat + header.increment else header.increment
      let (after, emptyLines) := skipIndent indent (after.rest.length + 1) after 0
      (after, emptyLines, indent)
  if after.atEnd then
    return (emptyBlock header.chomping (after.line == c.line) broken emptyLines, after)
  guard (!(decide (after.column < indent) && decide (outer < after.column)))
  let (after, b) :=
    blockLines literal indent (after.rest.length + 1) after { emptyLines := emptyLines }
  let cutShort := after.atEnd && decide (max indent 1 ≤ after.column)
  return (b.finish header.chomping cutShort, after)

end PairQuote.Yaml
