import PairQuote.Fee
import PairQuote.ScratchPool

/-! # Constant-product swaps

What a pair pays for an incoming amount.  The product of the reserves must not fall, with
the fee kept out of the incoming amount, so of `x` in and `y` out the pair pays

`amount · m · y / (x · 1000 + amount · m)`, rounded down,

where `m` is the multiplier of the fee.  `output` is this number; `amountOut` computes it
in borrowed integers, three for a preset fee and four for any other, all held until the
end and handed back in the reverse order.
-/
namespace PairQuote.Swap

/-- The amount paid out, in closed form. -/
def output (amountIn reserveIn reserveOut : Nat) (fee : Fee) : Nat :=
  amountIn * fee.multiplier * reserveOut /
    (reserveIn * Fee.denominator + amountIn * fee.multiplier)

/-- The multiplier of a fee and the integer borrowed to hold it, if it is not kept
ready. -/
def multiplier (fee : Fee) : StateM ScratchPool (Nat × List Nat) := do
  match fee.readyMultiplier? with
  | some ready => pure (ready, [])
  | none =>
    let built ← ScratchPool.load (0 + fee.multiplier)
    pure (built, [built])

/-- The amount paid out, computed in scratch integers.  Both reserves are positive. -/
def amountOut (amountIn reserveIn reserveOut : Nat) (fee : Fee) : StateM ScratchPool Nat := do
  let (m, borrowed) ← multiplier fee
  let withFee := (← ScratchPool.load amountIn) * m
  let below := (← ScratchPool.load reserveIn) * Fee.denominator + withFee
  let above := (← ScratchPool.load withFee) * reserveOut
  modify (ScratchPool.releaseAll ([above, below, withFee] ++ borrowed))
  pure (above / below)

end PairQuote.Swap
