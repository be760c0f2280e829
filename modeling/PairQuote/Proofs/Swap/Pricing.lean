import Mathlib.Algebra.Group.Nat.Defs
import PairQuote.Swap

/-! # Pricing in borrowed integers

`Swap.amountOut` works in integers of the pool and leaves the pool changed.  What it
returns depends on the pool in no way: it is the closed form `Swap.output`, whatever the
pool held and whichever integers it lent.

Pricing asks for admissible reserves.  On these it divides by a positive number, and it pays
out less than the pair has.
-/
namespace PairQuote

/-- The fee that is accepted removes what was asked for. -/
theorem Fee.removed_of_ofRemoved {removed : Nat} {fee : Fee} (h : ofRemoved removed = .ok fee) :
    fee.removed = removed := by
  unfold ofRemoved at h
  split at h <;> cases h
  rfl

/-- The multipliers that are kept ready are those that would be built. -/
theorem Fee.multiplier_of_ready {fee : Fee} {ready : Nat} (h : fee.readyMultiplier? = some ready) :
    ready = fee.multiplier := by
  have hall : ∀ entry ∈ presets, entry.2 = entry.1.multiplier := by decide
  obtain ⟨before, after, hpresets, -⟩ := List.lookup_eq_some_iff.mp h
  refine hall (fee, ready) ?_
  rw [hpresets]
  exact List.mem_append_right before List.mem_cons_self

namespace Swap

/-- The multiplier is that of the fee, kept ready or built. -/
theorem multiplier_run_fst (fee : Fee) (p : ScratchPool) :
    ((multiplier fee).run p).1.1 = fee.multiplier := by
  unfold multiplier
  cases hready : fee.readyMultiplier? with
  | some ready => exact Fee.multiplier_of_ready hready
  | none => exact Nat.zero_add _

/-- **The amount paid out does not depend on the pool.** -/
theorem amountOut_run_fst (amountIn reserveIn reserveOut : Nat) (fee : Fee)
    (p : ScratchPool) :
    ((amountOut amountIn reserveIn reserveOut fee).run p).1 =
      output amountIn reserveIn reserveOut fee := by
  have key : ((amountOut amountIn reserveIn reserveOut fee).run p).1 =
      amountIn * ((multiplier fee).run p).1.1 * reserveOut /
        (reserveIn * Fee.denominator + amountIn * ((multiplier fee).run p).1.1) := rfl
  rw [key, multiplier_run_fst, output]

/-- What pricing asks of the reserves: neither is zero, and both are of 112 bits. -/
structure Admissible (reserveIn reserveOut : Nat) : Prop where
  reserveIn_pos : 0 < reserveIn
  reserveIn_lt : reserveIn < 2 ^ 112
  reserveOut_pos : 0 < reserveOut
  reserveOut_lt : reserveOut < 2 ^ 112

/-- The number that pricing divides by is positive. -/
theorem divisor_pos {reserveIn : Nat} (hin : 0 < reserveIn) (amountIn : Nat) (fee : Fee) :
    0 < reserveIn * Fee.denominator + amountIn * fee.multiplier := by
  have hscaled : 0 < reserveIn * Fee.denominator := Nat.mul_pos hin (by decide)
  omega

/-- **A pair never pays out all it has**, whatever the amount. -/
theorem output_lt {reserveIn reserveOut : Nat} (hin : 0 < reserveIn) (hout : 0 < reserveOut)
    (amountIn : Nat) (fee : Fee) : output amountIn reserveIn reserveOut fee < reserveOut := by
  have hscaled : 0 < reserveIn * Fee.denominator := Nat.mul_pos hin (by decide)
  have hdivisor : amountIn * fee.multiplier <
      reserveIn * Fee.denominator + amountIn * fee.multiplier := by omega
  exact Nat.div_lt_of_lt_mul (Nat.mul_lt_mul_of_pos_right hdivisor hout)

end Swap

end PairQuote
