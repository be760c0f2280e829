import PairQuote.Text.Pieces
import PairQuote.Text.Digits

/-! # Internet addresses

Addresses of both versions, their texts and the reading of texts.  An address of version 4
is four decimal numbers below 256, none with a zero in front.  One of version 6 is eight
**groups** of one to four hexadecimal digits; `::` stands for the zero groups that are
missing, at least one, and the last two groups may be written as an address of version 4.

In print the first of the longest runs of two or more zero groups is left out, and an
address of version 4 inside version 6 keeps its own form.
-/
namespace PairQuote

/-- An address of either version. -/
inductive IpAddress where
  | v4 (bits : BitVec 32)
  | v6 (bits : BitVec 128)
  deriving DecidableEq, Repr

namespace IpAddress

/-- Numbers of `width` bits each, most significant first, as one number. -/
def join (width : Nat) (parts : List Nat) : Nat :=
  parts.foldl (fun n part => n * Nat.pow 2 width + part) 0

/-- The `count` numbers of `width` bits that make up a number, most significant first. -/
def split (width : Nat) : (count : Nat) → Nat → List Nat
  | 0, _ => []
  | count + 1, n => split width count (n / Nat.pow 2 width) ++ [n % Nat.pow 2 width]

/-- One of the four numbers of an address of version 4. -/
def octet? (row : List Char) : Option Nat :=
  if row.isEmpty ∨ 3 < row.length ∨ (row.head? = some '0' ∧ row ≠ ['0']) then none
  else (Text.valueOf? 10 row).filter (· < 256)

/-- The four numbers of an address of version 4. -/
def octets? (row : List Char) : Option (List Nat) :=
  match (Text.pieces '.' row).mapM octet? with
  | some [a, b, c, d] => some [a, b, c, d]
  | _ => none

/-- One group of an address of version 6. -/
def group? (row : List Char) : Option Nat :=
  if row.isEmpty ∨ 4 < row.length then none else Text.valueOf? 16 row

/-- The groups of a row of pieces, of which only the last may be an address of
version 4. -/
def groups? : List (List Char) → Option (List Nat)
  | [] => some []
  | [last] =>
    if last.contains '.' then
      (octets? last).map fun parts => split 16 2 (join 8 parts)
    else (group? last).map ([·])
  | piece :: rest => do
    let g ← group? piece
    let gs ← groups? rest
    return g :: gs

/-- What stands before and after the first `::`. -/
def cutGap : List Char → List Char × Option (List Char)
  | ':' :: ':' :: rest => ([], some rest)
  | [] => ([], none)
  | c :: rest => (c :: (cutGap rest).1, (cutGap rest).2)

/-- The pieces between colons; an empty row has none. -/
def colonPieces (row : List Char) : List (List Char) :=
  if row.isEmpty then [] else Text.pieces ':' row

/-- The eight groups of an address of version 6. -/
def groupsOf? (row : List Char) : Option (List Nat) :=
  match cutGap row with
  | (_, none) => do
    let gs ← groups? (Text.pieces ':' row)
    if gs.length = 8 then some gs else none
  | (before, some after) => do
    let front ← (colonPieces before).mapM group?
    let back ← groups? (colonPieces after)
    let missing := 8 - (front.length + back.length)
    if 1 ≤ missing then some (front ++ List.replicate missing 0 ++ back) else none

/-- Reads an address of version 6. -/
def v6OfText? (row : List Char) : Option IpAddress :=
  (groupsOf? row).map fun gs => .v6 (BitVec.ofNat 128 (join 16 gs))

/-- Reads an address of either version. -/
def ofText? (text : String) : Option IpAddress :=
  match octets? text.toList with
  | some parts => some (.v4 (BitVec.ofNat 32 (join 8 parts)))
  | none => v6OfText? text.toList

/-- Reads the address in front of a port. -/
def ofEndpoint? (text : String) : Option IpAddress :=
  match text.toList with
  | '[' :: row => v6OfText? (Text.cut '%' (Text.cut ']' row).1).1
  | row => ofText? (String.ofList (Text.cut ':' row).1)

/-- The text of four numbers. -/
def dotted (bits : Nat) : String :=
  ".".intercalate ((split 8 4 bits).map Text.decimal)

/-- How many zeros a row starts with. -/
def leadingZeros (gs : List Nat) : Nat := (gs.takeWhile (· == 0)).length

/-- Where the first of the longest runs of zeros starts, and its length. -/
def longestGap (gs : List Nat) : Nat × Nat :=
  (List.range gs.length).foldl (fun best i =>
    let n := leadingZeros (gs.drop i)
    if best.2 < n then (i, n) else best) (0, 0)

/-- Groups with colons between them. -/
def colons (gs : List Nat) : String :=
  ":".intercalate (gs.map fun g => String.ofList (Text.digits 16 g))

/-- The text of an address. -/
def text : IpAddress → String
  | .v4 bits => dotted bits.toNat
  | .v6 bits =>
    let gs := split 16 8 bits.toNat
    if gs.take 6 = [0, 0, 0, 0, 0, 0xFFFF] then
      "::ffff:" ++ dotted (bits.toNat % UInt32.size)
    else
      let (start, n) := longestGap gs
      if 1 < n then colons (gs.take start) ++ "::" ++ colons (gs.drop (start + n))
      else colons gs

end IpAddress

end PairQuote
