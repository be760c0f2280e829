import PairQuote.Text.Pieces
import PairQuote.Text.Numeral
import PairQuote.Binary64

/-! # The preferred kind of response

A request may say which media types it accepts, as ranges between commas with parameters
after semicolons, both of which blanks may follow.  A blank anywhere else, a part that is
missing or a quotation mark that is left open makes the whole list unreadable.

A range whose first parameter is `q` in either case, with a value of no more than five
bytes, has a **weight** between zero and one; a value that is no number is unreadable.  The
**preferred** range is found from the left: a later one wins over the best so far if it has
no weight and the best has one, if its weight is greater, or if it is more specific.
-/
namespace PairQuote.Http

/-- How much a range is wanted. -/
inductive Weight where
  /-- A number, as a multiple of the least positive single-precision one. -/
  | units (n : Nat)
  /-- The undefined number, which is neither greater nor less than any other. -/
  | undefined
  deriving DecidableEq, Repr

namespace Weight

/-- How many units there are in one. -/
def one : Nat := Nat.pow 2 149

/-- Whether a weight is greater than another. -/
def exceeds : Weight → Weight → Bool
  | units m, units n => decide (n < m)
  | _, _ => false

/-- The weight in a text: a number that is not above one and not below zero. -/
def ofText? (text : List Char) : Option Weight :=
  match Text.Numeral.ofRow? text with
  | some (.decimal negative mantissa exponent) =>
    let n :=
      if 0 ≤ exponent then mantissa * Nat.pow 10 exponent.toNat * one
      else Binary64.nearestEven (mantissa * one) (Nat.pow 10 (-exponent).toNat)
    if one < n ∨ (negative ∧ n ≠ 0) then none else some (units n)
  | some (.infinite _) => none
  | some .undefined => some undefined
  | none => none

end Weight

/-- A media range with its weight. -/
structure MediaRange where
  top : String
  sub : String
  weight : Option Weight
  deriving DecidableEq, Repr

/-- Whether a character can stand in the name of a media type or in a parameter. -/
def isTokenChar (c : Char) : Bool :=
  c.isAlphanum || "!#$%&'*+-.^_|~\x7b\x7d".toList.contains c || c.toNat == 0x60

/-- Characters that may follow a separator. -/
def isGap (c : Char) : Bool := c == ' ' || c == '\t'

/-- A row without the gap in front. -/
def skipGap (row : List Char) : List Char := row.dropWhile isGap

/-- The token at the start of a row, and the row after it; a token has a character. -/
def readToken (row : List Char) : Option (List Char × List Char) :=
  match row.takeWhile isTokenChar with
  | [] => none
  | token => some (token, row.drop token.length)

/-- Quoted text from behind the opening quotation mark, and the row after the closing one.
A backslash takes the meaning off the character after it and stays. -/
def readQuotedValue : List Char → Option (List Char × List Char)
  | [] => none
  | '"' :: row => some ([], row)
  | '\\' :: c :: row => (readQuotedValue row).map fun (text, rest) => ('\\' :: c :: text, rest)
  | c :: row => (readQuotedValue row).map fun (text, rest) => (c :: text, rest)

/-- A parameter at the start of a row, and the row after it. -/
def readParam (row : List Char) : Option ((List Char × List Char) × List Char) := do
  let (name, rest) ← readToken row
  match rest with
  | '=' :: '"' :: rest =>
    let (value, rest) ← readQuotedValue rest
    some ((name, value), rest)
  | '=' :: rest =>
    let (value, rest) ← readToken rest
    some ((name, value), rest)
  | _ => none

/-- The parameters at the start of a row, each behind a semicolon, and the row after them. -/
def readParams : (fuel : Nat) → List Char →
    Option (List (List Char × List Char) × List Char)
  | fuel + 1, ';' :: row => do
    let (param, rest) ← readParam (skipGap row)
    let (params, rest) ← readParams fuel rest
    some (param :: params, rest)
  | _, row => some ([], row)

namespace MediaRange

/-- The weight that parameters give: that of a short first one named `q`. -/
def weightOf : List (List Char × List Char) → Option (Option Weight)
  | (name, value) :: _ =>
    if Text.lower name = ['q'] ∧ (String.ofList value).utf8ByteSize ≤ 5 then
      (Weight.ofText? value).map some
    else some none
  | [] => some none

/-- The range at the start of a row, and the row after it. -/
def read (row : List Char) : Option (MediaRange × List Char) := do
  let (top, rest) ← readToken row
  match rest with
  | '/' :: rest =>
    let (sub, rest) ← readToken rest
    let (params, rest) ← readParams rest.length rest
    let weight ← weightOf params
    some (⟨String.ofList top, String.ofList sub, weight⟩, rest)
  | _ => none

/-- The ranges of a row, separated by commas, of which there is at least one. -/
def readAll : (fuel : Nat) → List Char → Option (List MediaRange)
  | 0, _ => none
  | fuel + 1, row => do
    let (range, rest) ← read row
    match rest with
    | [] => some [range]
    | ',' :: rest => (readAll fuel (skipGap rest)).map (range :: ·)
    | _ => none

/-- How specific a range is: how many of its top type and its subtype are not a star. -/
def specificity (m : MediaRange) : Nat :=
  (if m.top = "*" then 0 else 1) + (if m.sub = "*" then 0 else 1)

/-- Whether a range wins over the best so far. -/
def beats (m best : MediaRange) : Bool :=
  (m.weight.isNone && best.weight.isSome) ||
    (m.weight.getD (.units 0)).exceeds (best.weight.getD (.units Weight.one)) ||
    decide (m.specificity > best.specificity)

end MediaRange

/-- The preferred range of a list in text, if the list can be read. -/
def preferredRange? (accept : String) : Option MediaRange :=
  match MediaRange.readAll (accept.toList.length + 1) accept.toList with
  | some (first :: rest) =>
    some (rest.foldl (fun best m => if m.beats best then m else best) first)
  | _ => none

/-- Whether a list prefers JSON. -/
def prefersJson (accept : String) : Bool :=
  match preferredRange? accept with
  | some m => Text.sameLetters m.top "application" && Text.sameLetters m.sub "json"
  | none => false

end PairQuote.Http
