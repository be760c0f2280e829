import PairQuote.Text.Integer

/-! # The nodes of a YAML document

A node is a scalar, a sequence or a mapping.  The keys of a mapping are nodes of any kind,
and all different.

A plain scalar is of the kind it looks like: null, a truth value, an integer of 64 bits,
also in base sixteen or eight, a decimal, and otherwise text.  Decimals keep their text.
A tag of the core types demands a kind; all other tags, and quotation marks, make text.
-/
namespace PairQuote.Yaml

/-- A node of a document. -/
inductive Node where
  /-- A scalar that is not of the kind its tag demands, or a node inside itself. -/
  | invalid
  | null
  | bool (b : Bool)
  | int (n : Int)
  | real (text : String)
  | text (s : String)
  | sequence (items : List Node)
  | mapping (entries : List (Node × Node))
  deriving Inhabited

namespace Node

/-! ### Equality -/

mutual

/-- Whether two nodes are the same. -/
def same : Node → Node → Bool
  | invalid, invalid => true
  | null, null => true
  | bool a, bool b => a == b
  | int m, int n => m == n
  | real a, real b => a == b
  | text a, text b => a == b
  | sequence as, sequence bs => sameItems as bs
  | mapping as, mapping bs => sameEntries as bs
  | _, _ => false

/-- Whether two sequences have the same items. -/
def sameItems : List Node → List Node → Bool
  | [], [] => true
  | a :: as, b :: bs => same a b && sameItems as bs
  | _, _ => false

/-- Whether two mappings have the same entries in the same order. -/
def sameEntries : List (Node × Node) → List (Node × Node) → Bool
  | [], [] => true
  | (k, v) :: as, (l, w) :: bs => same k l && same v w && sameEntries as bs
  | _, _ => false

end

/-! ### Scalars -/

/-- The words for infinity and the undefined number. -/
def isNumberWord (text : String) : Bool :=
  [".inf", ".Inf", ".INF", "+.inf", "+.Inf", "+.INF", "-.inf", "-.Inf", "-.INF", ".nan", ".NaN",
    ".NAN"].contains text

/-- Whether a text is taken for a decimal: it is one of the words, or a numeral with a
digit. -/
def isReal (text : String) : Bool :=
  isNumberWord text ||
    (text.toList.any (·.isDigit) && (Text.Numeral.ofRow? text.toList).isSome)

/-- The integer that a plain scalar looks like.  One plus sign in front does not count. -/
def plainInt? (row : List Char) : Option Int :=
  match row with
  | '0' :: 'x' :: rest => Text.int64? 16 rest
  | '0' :: 'o' :: rest => Text.int64? 8 rest
  | '+' :: rest => Text.int64? 10 rest
  | _ => Text.int64? 10 row

/-- The node of a plain scalar without a tag. -/
def ofPlain (s : String) : Node :=
  match plainInt? s.toList with
  | some n => int n
  | none =>
    if s = "~" ∨ s = "null" then null
    else if s = "true" then bool true
    else if s = "false" then bool false
    else if isReal s then real s
    else text s

/-- The node of a plain scalar with a tag of the core types. -/
def ofCore (kind s : String) : Node :=
  if kind = "bool" then
    if s = "true" then bool true else if s = "false" then bool false else invalid
  else if kind = "int" then
    match Text.int64? 10 s.toList with
    | some n => int n
    | none => invalid
  else if kind = "float" then if isReal s then real s else invalid
  else if kind = "null" then if s = "~" ∨ s = "null" then null else invalid
  else text s

/-- What stands in front of the core types in tags. -/
def corePrefix : String := "tag:yaml.org,2002:"

/-- The node of a scalar, which may have a tag. -/
def ofScalar (plain : Bool) (tag : Option (String × String)) (s : String) : Node :=
  if !plain then text s
  else
    match tag with
    | none => ofPlain s
    | some (handle, kind) => if handle = corePrefix then ofCore kind s else text s

/-! ### Mappings -/

/-- Whether a node is an invalid one. -/
def isInvalid : Node → Bool
  | invalid => true
  | _ => false

/-- Takes nodes for keys and values in turn.  An invalid node is no key; the next one takes
its place. -/
def pairUp : (key : Option Node) → List Node → List (Node × Node)
  | _, [] => []
  | none, node :: rest => pairUp (if node.isInvalid then none else some node) rest
  | some key, node :: rest => (key, node) :: pairUp none rest

/-- Whether all keys are different. -/
def distinctKeys : List (Node × Node) → Bool
  | [] => true
  | (key, _) :: rest => rest.all (fun entry => !same key entry.1) && distinctKeys rest

/-- The mapping of keys and values in turn. -/
def ofChildren? (children : List Node) : Option Node :=
  let entries := pairUp none children
  if distinctKeys entries then some (mapping entries) else none

end Node

end PairQuote.Yaml
