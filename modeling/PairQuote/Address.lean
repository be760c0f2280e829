import PairQuote.Text.Digits

/-! # Account addresses

An **address** is twenty bytes, held as one 160-bit number.  Its text is `0x` and forty
lower-case digits of base sixteen; reading takes either case of the letters and of the
`x`, and nothing else: no blanks, no missing marker, no shorter or longer row.
-/
namespace PairQuote

/-- A twenty-byte account address. -/
structure Address where
  bits : BitVec 160
  deriving DecidableEq, Repr, Inhabited

namespace Address

/-- The address at which nothing lives. -/
def zero : Address := ⟨0⟩

/-- The number an address is. -/
def toNat (a : Address) : Nat := a.bits.toNat

/-- The text of an address: `0x` and forty digits. -/
def text (a : Address) : String :=
  String.ofList ('0' :: 'x' :: Text.fixedDigits 16 40 a.toNat)

/-- Reads an address after its marker: forty digits. -/
def ofDigits? (row : List Char) : Option Address :=
  if row.length = 40 then
    (Text.valueOf? 16 row).map fun n => ⟨BitVec.ofNat 160 n⟩
  else none

/-- Reads the text of an address, in either case. -/
def ofText? (text : String) : Option Address :=
  match text.toList with
  | '0' :: 'x' :: row => ofDigits? row
  | '0' :: 'X' :: row => ofDigits? row
  | _ => none

end Address

end PairQuote
