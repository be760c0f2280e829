import Mathlib.Order.Bounds.Defs
import PairQuote.Proofs.Swap.Pricing

/-! # The product of the reserves

A pair lets an amount go out as long as the product of its reserves does not fall by that, where
the fee is kept out of what comes in.  Everything is counted in parts per thousand, so that the
question is asked in whole numbers (`Swap.Accepts`).

What is paid is the greatest amount that the pair accepts (`Swap.le_output_iff`).  So it may be
paid, and one unit more may not.
-/
namespace PairQuote.Swap
variable {amountIn reserveIn reserveOut paid : Nat} {fee : Fee}

/-! ## What counts -/

/-- The reserve with what comes in, in parts per thousand, where the fee is kept out. -/
def counted (amountIn reserveIn : Nat) (fee : Fee) : Nat :=
  reserveIn * Fee.denominator + amountIn * fee.multiplier

theorem counted_pos (hin : 0 < reserveIn) : 0 < counted amountIn reserveIn fee :=
  divisor_pos hin amountIn fee

/-- At most everything that comes in counts. -/
theorem counted_le (amountIn reserveIn : Nat) (fee : Fee) :
    counted amountIn reserveIn fee ≤ (reserveIn + amountIn) * Fee.denominator := by
  rw [counted, Nat.add_mul]
  exact Nat.add_le_add_left (Nat.mul_le_mul_left amountIn (Nat.sub_le _ _)) _

theorem counted_add (first second reserveIn : Nat) (fee : Fee) :
    counted (first + second) reserveIn fee =
      counted first reserveIn fee + second * fee.multiplier := by
  rw [counted, counted, Nat.add_mul, Nat.add_assoc]

/-! ## What is accepted -/

/-- A pair accepts to pay an amount: it has it, and the product of the reserves does not fall. -/
structure Accepts (amountIn reserveIn reserveOut : Nat) (fee : Fee) (paid : Nat) : Prop where
  paid_le : paid ≤ reserveOut
  product_le : reserveIn * Fee.denominator * reserveOut ≤
    counted amountIn reserveIn fee * (reserveOut - paid)

/-- The product is kept if what goes out, counted in the enlarged reserve, costs no more than what
comes in, counted in the other one. -/
theorem product_le_iff (hpaid : paid ≤ reserveOut) :
    reserveIn * Fee.denominator * reserveOut ≤
        counted amountIn reserveIn fee * (reserveOut - paid) ↔
      paid * counted amountIn reserveIn fee ≤ amountIn * fee.multiplier * reserveOut := by
  have hprice : counted amountIn reserveIn fee * paid ≤
      counted amountIn reserveIn fee * reserveOut := Nat.mul_le_mul_left _ hpaid
  have hwhole : counted amountIn reserveIn fee * reserveOut =
      reserveIn * Fee.denominator * reserveOut + amountIn * fee.multiplier * reserveOut :=
    Nat.add_mul _ _ _
  rw [Nat.mul_sub, Nat.le_sub_iff_add_le hprice, hwhole, Nat.add_le_add_iff_left,
    Nat.mul_comm paid]

/-- Not more is paid than there is. -/
theorem output_le (amountIn reserveIn reserveOut : Nat) (fee : Fee) :
    output amountIn reserveIn reserveOut fee ≤ reserveOut :=
  Nat.div_le_of_le_mul (Nat.mul_le_mul_right reserveOut (Nat.le_add_left _ _))

/-- **What is paid is the greatest amount that the pair accepts.** -/
theorem le_output_iff (hin : 0 < reserveIn) :
    paid ≤ output amountIn reserveIn reserveOut fee ↔
      Accepts amountIn reserveIn reserveOut fee paid := by
  have hfloor : paid ≤ output amountIn reserveIn reserveOut fee ↔
      paid * counted amountIn reserveIn fee ≤ amountIn * fee.multiplier * reserveOut :=
    Nat.le_div_iff_mul_le (counted_pos hin)
  constructor
  · intro hle
    have hpaid : paid ≤ reserveOut :=
      Nat.le_trans hle (output_le amountIn reserveIn reserveOut fee)
    exact ⟨hpaid, (product_le_iff hpaid).mpr (hfloor.mp hle)⟩
  · intro haccepts
    exact hfloor.mpr ((product_le_iff haccepts.paid_le).mp haccepts.product_le)

/-- What is paid is accepted. -/
theorem output_accepted (hin : 0 < reserveIn) (amountIn reserveOut : Nat) (fee : Fee) :
    Accepts amountIn reserveIn reserveOut fee (output amountIn reserveIn reserveOut fee) :=
  (le_output_iff hin).mp (Nat.le_refl _)

/-- **Pricing pays the greatest amount that keeps the product**, at every pool, and with one unit
more the product falls. -/
theorem amountOut_isGreatest (hin : 0 < reserveIn) (hout : 0 < reserveOut) (amountIn : Nat)
    (fee : Fee) (p : ScratchPool) :
    IsGreatest
        {paid | paid ≤ reserveOut ∧ 1000 * reserveIn * reserveOut ≤
          (1000 * reserveIn + (1000 - fee.removed) * amountIn) * (reserveOut - paid)}
        ((amountOut amountIn reserveIn reserveOut fee).run p).1 ∧
      (1000 * reserveIn + (1000 - fee.removed) * amountIn) *
          (reserveOut - (((amountOut amountIn reserveIn reserveOut fee).run p).1 + 1)) <
        1000 * reserveIn * reserveOut := by
  have hasked : ∀ paid, Accepts amountIn reserveIn reserveOut fee paid ↔
      paid ≤ reserveOut ∧ 1000 * reserveIn * reserveOut ≤
        (1000 * reserveIn + (1000 - fee.removed) * amountIn) * (reserveOut - paid) := by
    intro paid
    rw [Nat.mul_comm 1000, Nat.mul_comm (1000 - fee.removed)]
    exact ⟨fun h => ⟨h.paid_le, h.product_le⟩, fun h => ⟨h.1, h.2⟩⟩
  rw [amountOut_run_fst]
  refine ⟨⟨(hasked _).mp ((le_output_iff hin).mp (Nat.le_refl _)), ?_⟩, ?_⟩
  · intro paid hpaid
    exact (le_output_iff hin).mpr ((hasked paid).mpr hpaid)
  · -- the unit is still there, so it is the product that is not kept
    have hthere : output amountIn reserveIn reserveOut fee + 1 ≤ reserveOut :=
      output_lt hin hout amountIn fee
    refine Nat.lt_of_not_le fun hkept => ?_
    have hmore := (le_output_iff hin).mpr ((hasked _).mpr ⟨hthere, hkept⟩)
    exact Nat.not_succ_le_self _ hmore

/-- A thousand brings 831 out of a pair that holds five thousand of either token, at a preset
fee. -/
theorem amountOut_isGreatest_of_preset : ∃ paid,
    paid = ((amountOut 1000 5000 5000 Fee.percent030).run (ScratchPool.new 1)).1 ∧ paid = 831 ∧
      0 < 5000 ∧
      IsGreatest {paid | paid ≤ 5000 ∧ 1000 * 5000 * 5000 ≤
        (1000 * 5000 + (1000 - Fee.percent030.removed) * 1000) * (5000 - paid)} paid ∧
      (1000 * 5000 + (1000 - Fee.percent030.removed) * 1000) * (5000 - (paid + 1)) <
        1000 * 5000 * 5000 := by
  have hpool : 0 < 5000 := by decide
  exact ⟨_, rfl, rfl, hpool,
    amountOut_isGreatest hpool hpool 1000 Fee.percent030 (ScratchPool.new 1)⟩

end PairQuote.Swap
