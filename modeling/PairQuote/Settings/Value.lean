import PairQuote.Json.Value
import PairQuote.Text.Pieces

/-! # Setting values

What a source of settings says about a name: a scalar, a list or a **table** of further
names.  Names are compared without regard to case, so tables hold them in lower case.

`put` brings a value into a table.  A table that comes in is **merged**: its names are put
one by one into the table that is there, and an empty one changes nothing.  Anything else
takes the place of what is there.  Where a table is needed and something else stands, it
gives way to an empty table.

No setting is a list, so the items of lists are not kept.
-/
namespace PairQuote.Settings

/-- A value of some source. -/
inductive Value where
  | null
  | bool (b : Bool)
  | int (n : Int)
  | real (x : Binary64)
  | text (s : String)
  | list
  | table (entries : List (String × Value))
  deriving Inhabited

/-- A character of a name in lower case.  The Kelvin sign is the one character beyond the
basic Latin alphabet whose lower case lies in it. -/
def lowerChar (c : Char) : Char :=
  if c = Char.ofNat 0x212A then 'k' else Text.lowerChar c

/-- A name in lower case. -/
def lowerName (name : String) : String := String.ofList (name.toList.map lowerChar)

namespace Value

/-- A table without entries. -/
def empty : Value := .table []

/-- The entries of a table; anything else has none. -/
def entries : Value → List (String × Value)
  | .table es => es
  | _ => []

/-- The value of a name in a table. -/
def get? (v : Value) (name : String) : Option Value := v.entries.lookup name

/-- The value at two names, one inside the other. -/
def getIn? (v : Value) (outer inner : String) : Option Value :=
  (v.get? outer).bind (·.get? inner)

/-- The table with a name's value replaced. -/
def insert (v : Value) (name : String) (new : Value) : Value :=
  .table ((name, new) :: v.entries.filter (·.1 ≠ name))

mutual

/-- Brings a value in under a name. -/
def put (name : String) : (incoming : Value) → Value → Value
  | .table es, root =>
    root.insert name (putAll es ((root.get? name).getD empty))
  | .null, root => root.insert name .null
  | .bool b, root => root.insert name (.bool b)
  | .int n, root => root.insert name (.int n)
  | .real x, root => root.insert name (.real x)
  | .text s, root => root.insert name (.text s)
  | .list, root => root.insert name .list

/-- Brings the entries of a table in, one by one. -/
def putAll : (incoming : List (String × Value)) → Value → Value
  | [], target => target
  | (name, v) :: rest, target => putAll rest (put (lowerName name) v target)

end

/-- The entries of which the last of each name counts. -/
def lastOfEach : List (String × Value) → List (String × Value)
  | [] => []
  | (name, v) :: rest =>
    if (rest.map (·.1)).contains name then lastOfEach rest else (name, v) :: lastOfEach rest

mutual

/-- The value that a JSON value is. -/
def ofJson : Json → Value
  | .null => .null
  | .bool b => .bool b
  | .int n => if Text.fitsInt64 n then .int n else .real (Binary64.ofNat n.natAbs)
  | .real x => .real x
  | .str s => .text s
  | .arr _ => .list
  | .obj members => .table (lastOfEach (ofMembers members))

/-- The entries that the members of a JSON object are. -/
def ofMembers : List (String × Json) → List (String × Value)
  | [] => []
  | (name, v) :: rest => (name, ofJson v) :: ofMembers rest

end

end Value

end PairQuote.Settings
