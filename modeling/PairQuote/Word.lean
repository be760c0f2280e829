import PairQuote.Text.Digits

/-! # Storage words

A contract keeps its state in numbered slots of thirty-two bytes.  A **word** is what one
slot holds, as a 256-bit number whose first byte is the most significant.
-/
namespace PairQuote

/-- The contents of one storage slot. -/
structure Word where
  bits : BitVec 256
  deriving DecidableEq, Repr, Inhabited

namespace Word

/-- The word of a slot that was never written. -/
def zero : Word := ⟨0⟩

/-- The text of a word: `0x` and sixty-four digits. -/
def text (w : Word) : String :=
  String.ofList ('0' :: 'x' :: Text.fixedDigits 16 64 w.bits.toNat)

/-- The word whose number is `n`, taken modulo `2 ^ 256`. -/
def ofNat (n : Nat) : Word := ⟨BitVec.ofNat 256 n⟩

end Word

end PairQuote
