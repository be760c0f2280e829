import PairQuote.Word
import PairQuote.Refusal

/-! # How a pair is laid out in storage

A pair keeps its two tokens in slots 6 and 7 and both reserves in slot 8.  A **token** is
the low twenty bytes of its word.  The **reserves** word holds, from the least significant
bit, the reserve of the first token and that of the second in 112 bits each, and the time
of the last change in the 32 bits that are left.
-/
namespace PairQuote

/-- The slot of the first token. -/
def token0Slot : UInt64 := 6

/-- The slot of the second token. -/
def token1Slot : UInt64 := 7

/-- The slot of the reserves. -/
def reservesSlot : UInt64 := 8

/-- The token a slot holds: its low 160 bits. -/
def Address.ofWord (w : Word) : Address := ⟨w.bits.extractLsb' 0 160⟩

/-- The word that holds an address under the given high bytes. -/
def Address.toWord (high : BitVec 96) (a : Address) : Word := ⟨high ++ a.bits⟩

/-- What a pair holds of its two tokens. -/
structure Reserves where
  reserve0 : BitVec 112
  reserve1 : BitVec 112
  deriving DecidableEq, Repr

namespace Reserves

/-- Takes the reserves out of their word; the time in the top bits is not looked at. -/
def ofWord (w : Word) : Reserves :=
  ⟨w.bits.extractLsb' 0 112, w.bits.extractLsb' 112 112⟩

/-- The word that holds the reserves and a time. -/
def toWord (time : BitVec 32) (r : Reserves) : Word :=
  ⟨time ++ (r.reserve1 ++ r.reserve0)⟩

/-- Whether one of the reserves is zero. -/
def hasEmptySide (r : Reserves) : Bool := r.reserve0 == 0 || r.reserve1 == 0

end Reserves

/-- Orders what belongs to the two tokens of a pair for an exchange of `src` for `dst`:
first what belongs to `src`.  The order of the pair is tried before the reversed one. -/
def Pair.orient {α : Type} (src dst token0 token1 : Address) (side0 side1 : α) :
    Except Refusal (α × α) :=
  if src = token0 ∧ dst = token1 then .ok (side0, side1)
  else if src = token1 ∧ dst = token0 then .ok (side1, side0)
  else .error (.tokenMismatch src dst token0 token1)

end PairQuote
