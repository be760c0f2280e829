import PairQuote.Yaml.Token
import PairQuote.Yaml.Cursor

/-! # The layout of a YAML text

Block collections are written by indentation alone, and a node is known to be a key only
when its colon comes.  A **layout** is how far a text has been cut into tokens and what is
still open there: the indentations of block collections, the flow collections, and for each
of these the last node that may turn out to be a key.

An indentation is either that of a block collection or a **lead** of one column behind a
key or an item, which gives way as soon as a block collection or a plain scalar starts.
-/
namespace PairQuote.Yaml

/-- An open indentation: the one around it, and whether it is that of a block collection. -/
structure Indent where
  outer : Int
  block : Bool

/-- A node that is a key if a colon follows. -/
structure Candidate where
  /-- Whether nothing but a key can stand here. -/
  required : Bool
  /-- How many tokens stand before it. -/
  position : Nat
  index : Nat
  line : Nat
  column : Nat

/-- How far a text has been cut into tokens, and what is open there. -/
structure Layout where
  cursor : Cursor
  tokens : Array Token := #[]
  /-- Whether a key can start here. -/
  keyAllowed : Bool := true
  /-- The last node that may be a key, in the innermost flow collection. -/
  candidate : Option Candidate := none
  /-- The same for what is around, from the inside out. -/
  outerCandidates : List (Option Candidate) := []
  indent : Int := -1
  /-- The open indentations, from the inside out. -/
  indents : List Indent := []
  /-- Where a colon is taken for that of a key although no blank follows. -/
  adjacentAt : Nat := 0
  /-- Whether a key in a flow collection belongs to a mapping that is open. -/
  flowMapping : Bool := false
  /-- For each open flow sequence whether a pair without braces is open in it. -/
  barePairs : List Bool := []

namespace Layout

/-- Whether a flow collection is open. -/
def inFlow (l : Layout) : Bool := !l.outerCandidates.isEmpty

/-- Goes to another place. -/
def moveTo (c : Cursor) (l : Layout) : Layout := { l with cursor := c }

/-- Adds a token. -/
def emit (t : Token) (l : Layout) : Layout := { l with tokens := l.tokens.push t }

/-- Adds a token after the first few. -/
def emitAt (position : Nat) (t : Token) (l : Layout) : Layout :=
  { l with tokens := l.tokens.insertIdxIfInBounds position t }

/-- Allows a key to start, or forbids it. -/
def allowKey (allowed : Bool) (l : Layout) : Layout := { l with keyAllowed := allowed }

/-! ### Keys -/

/-- Remembers that the node that starts here may be a key. -/
def markCandidate (l : Layout) : Layout :=
  if !l.keyAllowed then l
  else
    let required :=
      !l.inFlow && l.indent == l.cursor.column && (l.indents.head?.any fun i => i.block)
    { l with
      candidate := some
        ⟨required, l.tokens.size, l.cursor.index, l.cursor.line, l.cursor.column⟩ }

/-- Forgets what may be a key; it must not be one that is required. -/
def forgetCandidate? (l : Layout) : Option Layout :=
  if l.candidate.any fun k => k.required then none else some { l with candidate := none }

/-- Forgets a key outside flow collections that ended on an earlier line or started more
than 1024 characters ago. -/
def expireCandidate? (l : Layout) : Option Layout :=
  let expired := l.candidate.any fun k =>
    k.line < l.cursor.line || k.index + 1024 < l.cursor.index
  if !l.inFlow && expired then l.forgetCandidate? else some l

/-! ### Indentation -/

/-- The indentations that remain up to a column, and how many block collections end. -/
def indentsUpTo (column : Int) : (indent : Int) → List Indent → Int × List Indent × Nat
  | indent, [] => (indent, [], 0)
  | indent, i :: is =>
    if column < indent then
      let (indent, is, ended) := indentsUpTo column i.outer is
      (indent, is, if i.block then ended + 1 else ended)
    else (indent, i :: is, 0)

/-- Ends the block collections that are indented beyond a column. -/
def leaveBeyond (column : Int) (l : Layout) : Layout :=
  if l.inFlow then l
  else
    let (indent, indents, ended) := indentsUpTo column l.indent l.indents
    { l with
      indent := indent, indents := indents
      tokens := l.tokens ++ List.replicate ended Token.blockEnd }

/-- The indentations without the leads inside the innermost block collection. -/
def withoutLeads : (indent : Int) → List Indent → Int × List Indent
  | indent, i :: is => if i.block then (indent, i :: is) else withoutLeads i.outer is
  | indent, [] => (indent, [])

/-- Drops the leads inside the innermost block collection. -/
def dropLeads (l : Layout) : Layout :=
  let (indent, indents) := withoutLeads l.indent l.indents
  { l with indent := indent, indents := indents }

/-- Starts a block collection at a column, if none is open there, with its token after the
first few. -/
def enterBlock (column position : Nat) (t : Token) (l : Layout) : Layout :=
  if l.inFlow then l
  else
    let l : Layout :=
      match l.indents with
      | ⟨outer, false⟩ :: is =>
        if l.indent ≤ column then { l with indent := outer, indents := is } else l
      | _ => l
    if l.indent < column then
      { l.emitAt position t with indent := column, indents := ⟨l.indent, true⟩ :: l.indents }
    else l

/-- Adds a lead of one column in a block collection. -/
def addLead (l : Layout) : Layout :=
  if !l.inFlow && l.indents.head?.any fun i => i.block then
    { l with indent := l.indent + 1, indents := ⟨l.indent, false⟩ :: l.indents }
  else l

/-! ### Flow collections -/

/-- Opens a flow collection; there is a limit to how many can be open. -/
def openFlow? (l : Layout) : Option Layout :=
  if l.outerCandidates.length = 255 then none
  else some { l with candidate := none, outerCandidates := l.candidate :: l.outerCandidates }

/-- Closes a flow collection, if one is open. -/
def closeFlow (l : Layout) : Layout :=
  match l.outerCandidates with
  | candidate :: outer => { l with candidate := candidate, outerCandidates := outer }
  | [] => l

/-- Ends the pair without braces in the innermost flow sequence. -/
def endBarePair (l : Layout) : Layout :=
  match l.barePairs with
  | true :: outer =>
    { l.emit .flowMappingEnd with flowMapping := false, barePairs := false :: outer }
  | _ => l

end Layout

end PairQuote.Yaml
