import PairQuote.Yaml.Layout
import PairQuote.Yaml.Scalar.Block
import PairQuote.Yaml.Tag

/-! # Cutting a YAML text into tokens

`Token.ofText?` is the row of tokens of a text, up to its end.  Each step skips what stands
between tokens, ends the block collections that the next token is not inside of, and reads
one token.
-/
namespace PairQuote.Yaml

namespace Cursor

/-- Skips blanks, line ends and comments up to the next token; tells whether a line ended.
Where a block collection is open, a tab in front of its indentation must be on a line
without text. -/
def nextToken? (indent : Option Int) : (fuel : Nat) → Cursor → Bool → Option (Cursor × Bool)
  | 0, _, _ => none
  | fuel + 1, c, crossed =>
    match c.rest with
    | [] => some (c, crossed)
    | ch :: _ =>
      if ch == '\t' && c.fresh && indent.any fun n => decide ((c.column : Int) < n) then
        match c.skipGap? with
        | some (_, c) => if endsLine c.rest then nextToken? indent fuel c crossed else none
        | none => none
      else if isBlank ch then nextToken? indent fuel (c.skipBlanks 1) crossed
      else if isBreak ch then nextToken? indent fuel c.nextLine true
      else if ch == '#' then nextToken? indent fuel c.skipLine crossed
      else some (c, crossed)

/-- Skips spaces, line ends and comments; tells whether a line ended.  There must be a space
or a line end among them, and no tab behind them. -/
def pastSpaces? : (fuel : Nat) → Cursor → (separated crossed : Bool) → Option (Cursor × Bool)
  | 0, _, _, _ => none
  | fuel + 1, c, separated, crossed =>
    match c.rest with
    | [] => if separated then some (c, crossed) else none
    | ch :: _ =>
      if ch == ' ' then pastSpaces? fuel (c.skipBlanks 1) true crossed
      else if isBreak ch then pastSpaces? fuel c.nextLine true true
      else if ch == '#' then pastSpaces? fuel c.skipLine separated crossed
      else if separated && ch != '\t' then some (c, crossed)
      else none

end Cursor

namespace Layout

/-- Goes on to the next token; outside flow collections a key can start on a new line. -/
def skipToToken? (l : Layout) : Option Layout :=
  let indent := if l.indents.isEmpty then none else some l.indent
  (l.cursor.nextToken? indent (l.cursor.rest.length + 1) false).map fun (c, crossed) =>
    { l with cursor := c, keyAllowed := l.keyAllowed || (crossed && !l.inFlow) }

/-- The end of the text. -/
def endStream? (l : Layout) : Option Layout :=
  if (l.candidate :: l.outerCandidates).any fun k => k.any fun k => k.required then none
  else some ((l.leaveBeyond (-1)).emit .streamEnd)

/-- A directive. -/
def readDirective? (l : Layout) : Option Layout := do
  let l ← (l.leaveBeyond (-1)).forgetCandidate?
  let (t, c) ← directive? l.cursor
  return ((l.moveTo c).allowKey false).emit t

/-- The marker of a start or an end of a document; behind that of an end nothing may stand. -/
def readMarker? (t : Token) (l : Layout) : Option Layout := do
  let l ← (l.leaveBeyond (-1)).forgetCandidate?
  let l := ((l.moveTo (l.cursor.skip 3)).allowKey false).emit t
  if t = .documentStart then return l
  let (_, c) ← l.cursor.skipGap?
  guard (endsLine c.rest)
  return l.moveTo c

/-- The start of a flow collection. -/
def readFlowStart? (t : Token) (l : Layout) : Option Layout := do
  let l ← l.markCandidate.addLead.openFlow?
  let l :=
    if t = .flowMappingStart then { l with flowMapping := true }
    else { l with barePairs := false :: l.barePairs }
  let (_, c) ← (l.cursor.skip 1).skipGap?
  return ((l.moveTo c).allowKey true).emit t

/-- The end of a flow collection. -/
def readFlowEnd? (t : Token) (l : Layout) : Option Layout := do
  let l := (← l.forgetCandidate?).closeFlow
  let l :=
    if t = .flowSequenceEnd then
      let l := l.endBarePair
      { l with barePairs := l.barePairs.drop 1 }
    else l
  let (_, c) ← (l.cursor.skip 1).skipGap?
  let l := ((l.moveTo c).allowKey false).emit t
  return if l.inFlow then { l with adjacentAt := c.index } else l

/-- The comma of a flow collection. -/
def readFlowEntry? (l : Layout) : Option Layout := do
  let l := (← l.forgetCandidate?).endBarePair
  let (_, c) ← (l.cursor.skip 1).skipGap?
  return ((l.moveTo c).allowKey true).emit .flowEntry

/-- Whether a token names a node or gives its type at the start of a line. -/
def isMargin : Token → Bool
  | .anchor _ column | .tag _ _ column => column == 0
  | _ => false

/-- The sign of an item of a block sequence. -/
def readBlockEntry? (l : Layout) : Option Layout := do
  guard (!l.inFlow && l.keyAllowed)
  let c := l.cursor
  guard (!(c.column == 0 && decide (-1 < l.indent) && l.tokens.back?.any isMargin))
  let l := l.enterBlock c.column l.tokens.size .blockSequenceStart
  let (gap, c) ← (c.skip 1).skipGap?
  guard (!(gap.tab && c.sees '-' && endsWord (c.rest.drop 1)))
  let l := l.moveTo c
  let l := if c.rest.head?.any fun ch => isBreak ch || isFlow ch then l.addLead else l
  return ((← l.forgetCandidate?).allowKey true).emit .blockEntry

/-- The sign of a key. -/
def readKey? (l : Layout) : Option Layout := do
  guard (l.inFlow || l.keyAllowed)
  let l :=
    if l.inFlow then { l with flowMapping := true }
    else l.enterBlock l.cursor.column l.tokens.size .blockMappingStart
  let l ← l.forgetCandidate?
  let c := l.cursor.skip 1
  let (c, _) ← c.pastSpaces? (c.rest.length + 1) false false
  return ((l.moveTo c).allowKey !l.inFlow).emit .key

/-- The place behind the colon of a value: a letter, a digit or a hyphen must not follow
behind tabs alone. -/
def pastColon? (c : Cursor) : Option Cursor :=
  let c := c.skip 1
  if !c.sees '\t' then some c
  else
    match c.skipGap? with
    | some (gap, after) => if !gap.space && after.rest.head?.any isWord then none else some after
    | none => none

/-- The colon of a value behind a node, which becomes its key.  A pair without braces has
both on one line. -/
def readValueOf? (bare : Bool) (k : Candidate) (l : Layout) : Option Layout :=
  let l := l.emitAt k.position .key
  if bare && k.line < l.cursor.line then none
  else
    let l := if bare then l.emitAt k.position .flowMappingStart else l
    let l := (l.enterBlock k.column k.position .blockMappingStart).addLead
    some (({ l with candidate := none }.allowKey false).emit .value)

/-- The colon of a value whose key has a sign of its own, or is missing. -/
def readValueAlone? (bare : Bool) (column : Nat) (l : Layout) : Option Layout :=
  let l := if bare then l.emit .flowMappingStart else l
  if !l.inFlow && !l.keyAllowed then none
  else
    let l := (l.enterBlock column l.tokens.size .blockMappingStart).addLead
    some ((l.allowKey !l.inFlow).emit .value)

/-- The colon of a value.  In a flow sequence it starts a pair without braces. -/
def readValue? (l : Layout) : Option Layout := do
  let column := l.cursor.column
  let bare := !l.barePairs.isEmpty && !l.flowMapping
  let l := if bare then { l with barePairs := true :: l.barePairs.drop 1 } else l
  let l := l.moveTo (← pastColon? l.cursor)
  match l.candidate with
  | some k => l.readValueOf? bare k
  | none => l.readValueAlone? bare column

/-- An anchor, an alias or a tag. -/
def readProperty? (l : Layout) (read : Option (Token × Cursor)) : Option Layout :=
  read.map fun (t, c) => ((l.markCandidate.moveTo c).allowKey false).emit t

/-- A block scalar. -/
def readBlockScalar? (literal : Bool) (l : Layout) : Option Layout := do
  let l := l.markCandidate.dropLeads
  let (text, c) ← blockScalar? literal l.indent l.cursor
  return ((l.moveTo c).allowKey true).emit (.scalar false text)

/-- A quoted scalar; in flow collections a colon may follow it without a blank behind. -/
def readQuoted? (single : Bool) (l : Layout) : Option Layout := do
  let l := l.markCandidate.allowKey false
  let (text, c) ← quotedScalar? single l.inFlow l.indent l.cursor
  let l ← (l.moveTo c).skipToToken?
  return { l with adjacentAt := l.cursor.index }.emit (.scalar false text)

/-- A plain scalar; behind one that ends at the start of a line a key can start. -/
def readPlain? (l : Layout) : Option Layout := do
  let l := l.markCandidate.dropLeads
  let (text, c) ← plainScalar? l.inFlow (l.indent + 1) l.cursor
  return ((l.moveTo c).allowKey c.fresh).emit (.scalar true text)

/-- Reads the token at a place that starts with a character before a row. -/
def readToken? (ch : Char) (row : List Char) (l : Layout) : Option Layout :=
  let alone := endsWord row
  match ch with
  | '[' => l.readFlowStart? .flowSequenceStart
  | '\x7b' => l.readFlowStart? .flowMappingStart
  | ']' => l.readFlowEnd? .flowSequenceEnd
  | '\x7d' => l.readFlowEnd? .flowMappingEnd
  | ',' => l.readFlowEntry?
  | '-' => if alone then l.readBlockEntry? else l.readPlain?
  | '?' => if alone then l.readKey? else l.readPlain?
  | ':' =>
    let adjacent := row.head?.any isFlow || l.cursor.index == l.adjacentAt
    if alone || (l.inFlow && adjacent) then l.readValue? else l.readPlain?
  | '*' => l.readProperty? ((anchorName? l.cursor).map fun (name, c) => (.alias name, c))
  | '&' =>
    let column := l.cursor.column
    l.readProperty? ((anchorName? l.cursor).map fun (name, c) => (.anchor name column, c))
  | '!' => l.readProperty? (tag? l.inFlow l.cursor)
  | '|' => if l.inFlow then l.readPlain? else l.readBlockScalar? true
  | '>' => if l.inFlow then l.readPlain? else l.readBlockScalar? false
  | '\'' => l.readQuoted? true
  | '"' => l.readQuoted? false
  | '%' | '@' | '\x60' => none
  | _ => l.readPlain?

/-- Reads the next token. -/
def next? (l : Layout) : Option Layout := do
  let l ← l.skipToToken?
  let l := (← l.expireCandidate?).leaveBeyond l.cursor.column
  let c := l.cursor
  match c.rest with
  | [] => l.endStream?
  | ch :: row =>
    if c.column = 0 ∧ ch = '%' then l.readDirective?
    else if c.column = 0 ∧ startsMarker '-' c.rest then l.readMarker? .documentStart
    else if c.column = 0 ∧ startsMarker '.' c.rest then l.readMarker? .documentEnd
    else if c.column < l.indent then none
    else l.readToken? ch row

/-- Reads tokens up to the end of the text. -/
def readAll? : (fuel : Nat) → Layout → Option (List Token)
  | 0, _ => none
  | fuel + 1, l =>
    match l.next? with
    | none => none
    | some l => if l.tokens.back? = some .streamEnd then some l.tokens.toList else readAll? fuel l

end Layout

/-- The tokens of a text. -/
def Token.ofText? (text : String) : Option (List Token) :=
  let c := Cursor.start text
  Layout.readAll? (c.rest.length + 1) { cursor := c }

end PairQuote.Yaml
