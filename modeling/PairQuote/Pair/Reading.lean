import PairQuote.Chain
import PairQuote.Pair.Layout

/-! # Reading a pair

The tokens and the reserves of a pair at one block.  Nothing lives at an address one of
whose token slots is zero, and a pair with an empty side cannot be priced.  Both token
slots are read before either is judged.
-/
namespace PairQuote.Pair

variable {σ : Type} (source : ChainSource σ)

/-- The two tokens of a pair, in the order the pair keeps them. -/
def tokens (pair : Address) (block : UInt64) : ChainM σ (Address × Address) := do
  let token0 := Address.ofWord (← source.readSlot pair token0Slot block)
  let token1 := Address.ofWord (← source.readSlot pair token1Slot block)
  if token0 = Address.zero ∨ token1 = Address.zero then throw (.noPair pair block)
  return (token0, token1)

/-- The reserves of a pair, neither of them zero. -/
def reserves (pair : Address) (block : UInt64) : ChainM σ Reserves := do
  let reserves := Reserves.ofWord (← source.readSlot pair reservesSlot block)
  if reserves.hasEmptySide then throw (.emptyReserves pair block)
  return reserves

end PairQuote.Pair
