/-! # Text from bytes

Bytes are read as UTF-8 without ever failing.  Where no character can be read, the longest
stretch of bytes that could have begun one — at least the next byte — is replaced by
U+FFFD, and reading goes on after it.
-/
namespace PairQuote.Text

/-- Stands where no character could be read. -/
def replacement : Char := Char.ofNat 0xFFFD

/-- The character of a number, if there is one. -/
def charOf? (n : Nat) : Option Char :=
  if n < 0xD800 ∨ (0xDFFF < n ∧ n < 0x110000) then some (Char.ofNat n) else none

/-- Whether a byte can follow the first two of a character. -/
def isContinuation (b : Nat) : Bool := 0x80 ≤ b && b ≤ 0xBF

/-- The bytes that can come second after a given first one. -/
def secondRange (first : Nat) : Nat × Nat :=
  if first = 0xE0 then (0xA0, 0xBF)
  else if first = 0xED then (0x80, 0x9F)
  else if first = 0xF0 then (0x90, 0xBF)
  else if first = 0xF4 then (0x80, 0x8F)
  else (0x80, 0xBF)

/-- Whether a byte can come second. -/
def isSecond (first b : Nat) : Bool :=
  (secondRange first).1 ≤ b && b ≤ (secondRange first).2

/-- How many bytes the character that starts with a byte has; zero if none does. -/
def byteCount (first : Nat) : Nat :=
  if first < 0x80 then 1
  else if 0xC2 ≤ first ∧ first ≤ 0xDF then 2
  else if 0xE0 ≤ first ∧ first ≤ 0xEF then 3
  else if 0xF0 ≤ first ∧ first ≤ 0xF4 then 4
  else 0

/-- The bytes after the first that belong to the same character, or to its beginning. -/
def followers (first : Nat) (rest : List Nat) : List Nat :=
  match (rest.take (byteCount first - 1)) with
  | [] => []
  | second :: more =>
    if isSecond first second then second :: more.takeWhile isContinuation else []

/-- The character of a complete row of bytes. -/
def assemble (first : Nat) (rest : List Nat) : Char :=
  let lead := match rest.length with
    | 0 => first
    | 1 => first % 0x20
    | 2 => first % 0x10
    | _ => first % 0x08
  Char.ofNat (rest.foldl (fun n b => n * 0x40 + b % 0x40) lead)

/-- Reads bytes as UTF-8; what cannot be read is replaced. -/
def ofUtf8 : List Nat → List Char
  | [] => []
  | first :: rest =>
    let more := followers first rest
    let c := if more.length + 1 = byteCount first then assemble first more else replacement
    c :: ofUtf8 (rest.drop more.length)
  termination_by bytes => bytes.length
  decreasing_by rw [List.length_drop, List.length_cons]; omega

/-- The bytes of a row of characters. -/
def toUtf8 (row : List Char) : List Nat :=
  row.flatMap fun c => (String.utf8EncodeChar c).map (·.toNat)

end PairQuote.Text
