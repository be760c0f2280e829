/-! # Cutting text

Rows of characters are cut at separators: `pieces` cuts at every one, `cut` at the first
only.  `trim` takes **blanks** off both ends, where a blank is any character with the
Unicode property White_Space.
-/
namespace PairQuote.Text

/-- The parts of a row between the separators; a row with none has one part. -/
def pieces (sep : Char) : List Char → List (List Char)
  | [] => [[]]
  | c :: row =>
    if c = sep then [] :: pieces sep row
    else
      match pieces sep row with
      | part :: parts => (c :: part) :: parts
      | [] => [[c]]

/-- What stands before the first separator, and what stands after it if there is one. -/
def cut (sep : Char) : List Char → List Char × Option (List Char)
  | [] => ([], none)
  | c :: row =>
    if c = sep then ([], some row)
    else ((c :: (cut sep row).1), (cut sep row).2)

/-- Whether a character has the property White_Space. -/
def isBlank (c : Char) : Bool :=
  let n := c.toNat
  (0x9 ≤ n && n ≤ 0xD) || n == 0x20 || n == 0x85 || n == 0xA0 || n == 0x1680 ||
    (0x2000 ≤ n && n ≤ 0x200A) || n == 0x2028 || n == 0x2029 || n == 0x202F || n == 0x205F ||
    n == 0x3000

/-- The row without the blanks in front. -/
def trimLeft (row : List Char) : List Char := row.dropWhile isBlank

/-- The row without the blanks at the end. -/
def trimRight (row : List Char) : List Char := (row.reverse.dropWhile isBlank).reverse

/-- The row without the blanks at both ends. -/
def trim (row : List Char) : List Char := trimRight (trimLeft row)

/-- A letter of the basic Latin alphabet in lower case, anything else as it is. -/
def lowerChar (c : Char) : Char :=
  if 'A' ≤ c ∧ c ≤ 'Z' then Char.ofNat (c.toNat + 32) else c

/-- The row with basic Latin letters in lower case. -/
def lower (row : List Char) : List Char := row.map lowerChar

/-- Whether two texts are equal up to the case of basic Latin letters. -/
def sameLetters (a b : String) : Bool := lower a.toList == lower b.toList

end PairQuote.Text
