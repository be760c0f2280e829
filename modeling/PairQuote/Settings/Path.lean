import PairQuote.Settings.Value

/-! # Paths to settings

A name that a source gives may be a **path**: a name, then further names behind points and
positions in brackets.  A name that does not read as a path is one plain name.  Setting a
value at a path makes tables, and lists for positions, of whatever stands in the way.
-/
namespace PairQuote.Settings

/-- Where a value belongs. -/
inductive Path where
  | name (n : String)
  | child (parent : Path) (n : String)
  | item (parent : Path) (index : Int)

namespace Path

/-- Whether a character can stand in a name of a path. -/
def isNameChar (c : Char) : Bool := c.isAlphanum || c == ' ' || c == '_' || c == '-'

/-- Reads a position up to its closing bracket: an integer of 64 bits, blanks around it. -/
def readIndex (row : List Char) : Option (Int × List Char) :=
  let isSpace (c : Char) : Bool := c == ' ' || c == '\t'
  let row := row.dropWhile isSpace
  let (negative, row) := match row with
    | '-' :: rest => (true, rest)
    | _ => (false, row)
  let digits := row.takeWhile (·.isDigit)
  let n : Int := (Text.valueOf? 10 digits).getD 0
  let n := if negative then -n else n
  match (row.drop digits.length).dropWhile isSpace with
  | ']' :: rest =>
    if digits.isEmpty ∨ !Text.fitsInt64 n then none else some (n, rest)
  | _ => none

/-- Reads what follows a path so far.  Every step takes a character at least. -/
def readMore (path : Path) : (fuel : Nat) → List Char → Option Path
  | _, [] => some path
  | 0, _ => none
  | fuel + 1, '.' :: rest =>
    let n := rest.takeWhile isNameChar
    if n.isEmpty then none
    else readMore (.child path (String.ofList n)) fuel (rest.drop n.length)
  | fuel + 1, '[' :: rest =>
    match readIndex rest with
    | some (index, rest) => readMore (.item path index) fuel rest
    | none => none
  | _ + 1, _ => none

/-- Reads a path; a text that is none is one name. -/
def ofText (text : String) : Path :=
  let row := text.toList
  let n := row.takeWhile isNameChar
  if n.isEmpty then .name text
  else (readMore (.name (String.ofList n)) row.length (row.drop n.length)).getD (.name text)

/-- Changes what stands at a path. -/
def modify (f : Value → Value) : Path → Value → Value
  | .name n, root => root.insert (lowerName n) (f ((root.get? (lowerName n)).getD .null))
  | .child parent n, root =>
    parent.modify
      (fun v => v.insert (lowerName n) (f ((v.get? (lowerName n)).getD .null))) root
  | .item parent _, root => parent.modify (fun _ => .list) root

/-- Sets a value at a path. -/
def set (v : Value) : Path → Value → Value
  | .name n, root => Value.put (lowerName n) v root
  | .child parent n, root => parent.modify (Value.put (lowerName n) v) root
  | .item parent _, root => parent.modify (fun _ => .list) root

end Path

/-- Brings a source into a table: each of its names is a path. -/
def Value.overlay (source : List (String × Value)) (root : Value) : Value :=
  source.foldl (fun root (name, v) => (Path.ofText name).set v root) root

end PairQuote.Settings
