import PairQuote.Json.Value

/-! # Reading JSON

A document is one value between blanks.  The reader takes the standard grammar and nothing
more: no comma after the last item, no leading zeros, no unescaped control characters, no
half of a surrogate pair, and no more than 127 values around a value.

A floating-point number is put together from its first digits, as many as fit 64 bits, and
a power of ten: each is rounded to a binary number by itself and the two are multiplied or
divided.  Numbers beyond the greatest finite one are refused.

The functions on rows return what they have read and the row after it.
-/
namespace PairQuote.Json

/-- Characters between the parts of a document. -/
def isBlank (c : Char) : Bool := c == ' ' || c == '\t' || c == '\n' || c == '\r'

/-- The row after its blanks. -/
def skipBlanks (row : List Char) : List Char := row.dropWhile isBlank

/-- The row after a word, if it starts with it. -/
def after? (word row : List Char) : Option (List Char) :=
  if word.isPrefixOf row then some (row.drop word.length) else none

/-! ### Numbers -/

/-- Adds a digit of the whole part: to the digits kept, or to the count of digits that no
longer fit. -/
def addWhole (acc : Nat × Nat) (c : Char) : Nat × Nat :=
  let (kept, dropped) := acc
  let next := kept * 10 + (c.toNat - '0'.toNat)
  if dropped = 0 ∧ next < UInt64.size then (next, 0) else (kept, dropped + 1)

/-- Adds a digit of the fraction: to the digits kept and the count of places, as long as
all of them fit. -/
def addPlace (acc : Nat × Nat × Bool) (c : Char) : Nat × Nat × Bool :=
  let (kept, places, full) := acc
  let next := kept * 10 + (c.toNat - '0'.toNat)
  if !full ∧ next < UInt64.size then (next, places + 1, false) else (kept, places, true)

/-- `x · 10 ^ exponent`, with the power of ten rounded first; nothing if it is infinite.
A power below `10 ^ -308` is taken in steps. -/
def scale? (x : Binary64) (exponent : Int) : (steps : Nat) → Option Binary64
  | 0 => some (Binary64.zero)
  | steps + 1 =>
    if exponent.natAbs ≤ 308 then
      let power := Binary64.ofNat (Nat.pow 10 exponent.natAbs)
      let y := if 0 ≤ exponent then x.mul power else x.div power
      if y.isFinite then some y else none
    else if x = Binary64.zero then some x
    else if 0 ≤ exponent then none
    else scale? (x.div (Binary64.ofNat (Nat.pow 10 308))) (exponent + 308) steps

/-- The number with these first digits, this power of ten and this sign. -/
def realOf? (negative : Bool) (kept : Nat) (exponent : Int) : Option Json :=
  (scale? (Binary64.ofNat kept) exponent 4).map fun x =>
    real (if negative then x.negate else x)

/-- The integer with this sign and these digits.  Zero with a sign, and what is below the
signed 64-bit numbers, is a floating-point number. -/
def intOf (negative : Bool) (n : Nat) : Json :=
  if !negative then int n
  else if n = 0 ∨ !Text.fitsInt64 (-n) then real (Binary64.ofNat n).negate
  else int (-n)

/-- Reads the exponent after its letter. -/
def readExponent (row : List Char) : Option (Int × List Char) :=
  let (negative, row) := match row with
    | '-' :: rest => (true, rest)
    | '+' :: rest => (false, rest)
    | _ => (false, row)
  let places := row.takeWhile (·.isDigit)
  if places.isEmpty then none
  else
    let n : Int := (Text.valueOf? 10 places).getD 0
    some (if negative then -n else n, row.drop places.length)

/-- Reads what follows the digits of a floating-point number: an exponent, or nothing of it. -/
def finishReal (negative : Bool) (kept : Nat) (exponent : Int) :
    List Char → Option (Json × List Char)
  | c :: rest =>
    if c = 'e' ∨ c = 'E' then
      (readExponent rest).bind fun (e, row) =>
        (realOf? negative kept (exponent + e)).map fun x => (x, row)
    else (realOf? negative kept exponent).map fun x => (x, c :: rest)
  | [] => (realOf? negative kept exponent).map fun x => (x, [])

/-- Reads a number after its sign. -/
def readNumber (negative : Bool) (row : List Char) : Option (Json × List Char) :=
  let whole := row.takeWhile (·.isDigit)
  let rest := row.drop whole.length
  if whole.isEmpty ∨ (1 < whole.length ∧ whole.head? = some '0') then none
  else
    let (kept, dropped) := whole.foldl addWhole (0, 0)
    match rest with
    | '.' :: rest =>
      let fraction := rest.takeWhile (·.isDigit)
      if fraction.isEmpty then none
      else
        let (kept, places, _) := fraction.foldl addPlace (kept, 0, false)
        finishReal negative kept ((dropped : Int) - places) (rest.drop fraction.length)
    | c :: _ =>
      if c = 'e' ∨ c = 'E' ∨ dropped ≠ 0 then finishReal negative kept dropped rest
      else some (intOf negative kept, rest)
    | [] =>
      if dropped ≠ 0 then finishReal negative kept dropped rest
      else some (intOf negative kept, rest)

/-! ### Strings -/

/-- The character that a letter after a backslash stands for. -/
def unescape? (c : Char) : Option Char :=
  if c = '"' ∨ c = '\\' ∨ c = '/' then some c
  else if c = 'b' then some (Char.ofNat 8)
  else if c = 'f' then some (Char.ofNat 12)
  else if c = 'n' then some '\n'
  else if c = 'r' then some '\r'
  else if c = 't' then some '\t'
  else none

/-- Reads the characters of a string up to and with the closing quotation mark. -/
def readString : List Char → Option (List Char × List Char)
  | [] => none
  | '"' :: row => some ([], row)
  | '\\' :: 'u' :: a :: b :: c :: d :: row => do
    let unit ← Text.valueOf? 16 [a, b, c, d]
    if 0xDC00 ≤ unit ∧ unit ≤ 0xDFFF then none
    else if 0xD800 ≤ unit ∧ unit ≤ 0xDBFF then
      match row with
      | '\\' :: 'u' :: a :: b :: c :: d :: row => do
        let low ← Text.valueOf? 16 [a, b, c, d]
        if 0xDC00 ≤ low ∧ low ≤ 0xDFFF then
          let (text, rest) ← readString row
          some (Char.ofNat (0x10000 + (unit - 0xD800) * 0x400 + (low - 0xDC00)) :: text, rest)
        else none
      | _ => none
    else do
      let (text, rest) ← readString row
      some (Char.ofNat unit :: text, rest)
  | '\\' :: c :: row => do
    let c ← unescape? c
    let (text, rest) ← readString row
    some (c :: text, rest)
  | c :: row =>
    if c = '\\' ∨ c.toNat < 0x20 then none
    else do
      let (text, rest) ← readString row
      some (c :: text, rest)

/-! ### Values -/

mutual

/-- Reads one value. -/
def readValue : (fuel depth : Nat) → List Char → Option (Json × List Char)
  | 0, _, _ => none
  | fuel + 1, depth, row =>
    match skipBlanks row with
    | '"' :: rest => (readString rest).map fun (text, rest) => (str (String.ofList text), rest)
    | '[' :: rest =>
      if depth ≤ 1 then none
      else
        match skipBlanks rest with
        | ']' :: rest => some (arr [], rest)
        | rest => (readItems fuel (depth - 1) rest).map fun (items, rest) => (arr items, rest)
    | '\x7b' :: rest =>
      if depth ≤ 1 then none
      else
        match skipBlanks rest with
        | '\x7d' :: rest => some (obj [], rest)
        | rest =>
          (readMembers fuel (depth - 1) rest).map fun (members, rest) => (obj members, rest)
    | '-' :: rest => readNumber true rest
    | row =>
      if row.head?.any (·.isDigit) then readNumber false row
      else
        ((after? "null".toList row).map ((null, ·))).or
          (((after? "true".toList row).map ((bool true, ·))).or
            ((after? "false".toList row).map ((bool false, ·))))

/-- Reads the items of an array, of which there is at least one, and its end. -/
def readItems : (fuel depth : Nat) → List Char → Option (List Json × List Char)
  | 0, _, _ => none
  | fuel + 1, depth, row => do
    let (item, row) ← readValue fuel depth row
    match skipBlanks row with
    | ',' :: rest => do
      let (items, rest) ← readItems fuel depth rest
      some (item :: items, rest)
    | ']' :: rest => some ([item], rest)
    | _ => none

/-- Reads the members of an object, of which there is at least one, and its end. -/
def readMembers : (fuel depth : Nat) → List Char → Option (List (String × Json) × List Char)
  | 0, _, _ => none
  | fuel + 1, depth, row =>
    match skipBlanks row with
    | '"' :: rest => do
      let (name, rest) ← readString rest
      match skipBlanks rest with
      | ':' :: rest => do
        let (value, rest) ← readValue fuel depth rest
        let first := (String.ofList name, value)
        match skipBlanks rest with
        | ',' :: rest => do
          let (members, rest) ← readMembers fuel depth rest
          some (first :: members, rest)
        | '\x7d' :: rest => some ([first], rest)
        | _ => none
      | _ => none
    | _ => none

end

/-- How many values may stand around one another, and one more. -/
def maxDepth : Nat := 128

/-- The value of a document. -/
def ofText? (text : String) : Option Json :=
  let row := text.toList
  match readValue (2 * row.length + 2) maxDepth row with
  | some (value, rest) => if (skipBlanks rest).isEmpty then some value else none
  | none => none

end PairQuote.Json
