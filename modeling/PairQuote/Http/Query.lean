import PairQuote.Text.Pieces
import PairQuote.Text.Percent

/-! # Paths and queries of a target

The **target** of a request is a path and, after the first question mark, a query.  A path
is a row of segments, of which empty ones do not count.  There are two rules for a slash at
the end of a path: it is ignored like any other that nothing follows, or an empty segment
stands behind it, and then the path is another one (`LastSlash`).  Which of them is kept to is
up to whoever takes the requests in.

A query is a row of fields between ampersands, empty ones left out, each a name and a value
around the first equals sign.

Segments, names and values are percent-encoded; a `+` in a query stands for a blank.  What
is neither a letter, a digit nor one of some signs must not stand in a target otherwise.

A name may have several keys, as in `a.b` or `a[b]`; a field belongs to the parameter that
its first key names.  A parameter with more than one field has no value.
-/
namespace PairQuote.Http

/-- Whether a character can stand in a path. -/
def isPathChar (c : Char) : Bool := c.isAlphanum || "-._~%!$&'()*+,;=:@/".toList.contains c

/-- Whether a character can stand in a query. -/
def isQueryChar (c : Char) : Bool := isPathChar c || "?\x7b\x7d[]\\^|\x60".toList.contains c

/-- Whether a row is a target: a path that starts with a slash, and perhaps a query. -/
def isTarget (row : List Char) : Bool :=
  let (path, query) := Text.cut '?' row
  path.head? == some '/' && path.all isPathChar && (query.getD []).all isQueryChar

/-- The text that a percent-encoded row stands for. -/
def decodeSegment (row : List Char) : String :=
  String.ofList (Text.ofPercent row)

/-- The text that a percent-encoded row of a query stands for. -/
def decodeComponent (row : List Char) : String :=
  decodeSegment (row.map fun c => if c = '+' then ' ' else c)

/-- What a slash at the end of a path comes to. -/
inductive LastSlash where
  /-- Nothing. -/
  | ignored
  /-- An empty segment stands behind it, unless the path is the slash alone. -/
  | counted
  deriving DecidableEq, Repr

/-- The decoded segments of a path. -/
def segments (slash : LastSlash) (path : List Char) : List String :=
  let parts := (Text.pieces '/' path).filter (!·.isEmpty)
  let gap := if slash = .counted ∧ path.getLast? = some '/' ∧ path ≠ ['/'] then [[]] else []
  (parts ++ gap).map decodeSegment

/-- The decoded names and values of a query. -/
def fields (query : List Char) : List (String × String) :=
  ((Text.pieces '&' query).filter (!·.isEmpty)).map fun piece =>
    let (name, value) := Text.cut '=' piece
    (decodeComponent name, decodeComponent (value.getD []))

/-- The first key of a name.  In brackets it ends at the closing one, or else at a point;
a bracket that is never closed does not count. -/
def firstKey (name : List Char) : List Char :=
  match name with
  | '[' :: rest =>
    let inner := rest.takeWhile fun c => c ≠ ']' ∧ c ≠ '.'
    if (rest.drop inner.length).head? = some '.' then '[' :: inner else inner
  | '.' :: rest => rest.takeWhile fun c => c ≠ '.' ∧ c ≠ '['
  | _ => name.takeWhile fun c => c ≠ '.' ∧ c ≠ '['

/-- The value of a parameter: that of its only field. -/
def parameter? (fields : List (String × String)) (key : String) : Option String :=
  match fields.filter fun field => String.ofList (firstKey field.1.toList) == key with
  | [field] => some field.2
  | _ => none

end PairQuote.Http
