import PairQuote.Proofs.Swap.Product

/-! # There and back

What a pair has paid may be sold back to it, against the reserves that the payment has left.

A payment that a pair accepts never lowers the product of its reserves (`Accepts.product_le_after`),
and it raises the product if something came in and a fee was kept of it
(`Accepts.product_lt_after`).  After a payment there and one back, one reserve is what it was
before.  So the other one is not smaller, and the way there and back brings no more than it took
(`Accepts.back_le`, `Accepts.back_lt`).

All of this holds of whatever a pair accepts.  That the payments are rounded down plays no part,
and neither does it matter if nothing was paid on the way there.
-/
namespace PairQuote.Swap
variable {amountIn reserveIn reserveOut paid back : Nat} {fee : Fee}

/-! ## One payment -/

/-- A fee is kept out of whatever comes in. -/
theorem counted_lt (hfee : 0 < fee.removed) (hamount : 0 < amountIn) (reserveIn : Nat) :
    counted amountIn reserveIn fee < (reserveIn + amountIn) * Fee.denominator := by
  have hmultiplier : fee.multiplier < Fee.denominator := Nat.sub_lt (by decide) hfee
  have hkept : amountIn * fee.multiplier < amountIn * Fee.denominator :=
    Nat.mul_lt_mul_of_pos_left hmultiplier hamount
  rw [counted, Nat.add_mul]
  omega

/-- **The product of the reserves never falls.** -/
theorem Accepts.product_le_after (h : Accepts amountIn reserveIn reserveOut fee paid) :
    reserveIn * reserveOut ≤ (reserveIn + amountIn) * (reserveOut - paid) := by
  refine Nat.le_of_mul_le_mul_right ?_ (show 0 < Fee.denominator by decide)
  calc reserveIn * reserveOut * Fee.denominator
      = reserveIn * Fee.denominator * reserveOut := Nat.mul_right_comm _ _ _
    _ ≤ counted amountIn reserveIn fee * (reserveOut - paid) := h.product_le
    _ ≤ (reserveIn + amountIn) * Fee.denominator * (reserveOut - paid) :=
        Nat.mul_le_mul_right _ (counted_le amountIn reserveIn fee)
    _ = (reserveIn + amountIn) * (reserveOut - paid) * Fee.denominator :=
        Nat.mul_right_comm _ _ _

/-- **The product of the reserves rises by the fee**, as long as a reserve is left. -/
theorem Accepts.product_lt_after (h : Accepts amountIn reserveIn reserveOut fee paid)
    (hfee : 0 < fee.removed) (hamount : 0 < amountIn) (hleft : paid < reserveOut) :
    reserveIn * reserveOut < (reserveIn + amountIn) * (reserveOut - paid) := by
  refine Nat.lt_of_mul_lt_mul_right (a := Fee.denominator) ?_
  calc reserveIn * reserveOut * Fee.denominator
      = reserveIn * Fee.denominator * reserveOut := Nat.mul_right_comm _ _ _
    _ ≤ counted amountIn reserveIn fee * (reserveOut - paid) := h.product_le
    _ < (reserveIn + amountIn) * Fee.denominator * (reserveOut - paid) :=
        Nat.mul_lt_mul_of_pos_right (counted_lt hfee hamount reserveIn) (Nat.sub_pos_of_lt hleft)
    _ = (reserveIn + amountIn) * (reserveOut - paid) * Fee.denominator :=
        Nat.mul_right_comm _ _ _

/-! ## Two payments -/

/-- Two payments that leave one reserve as it was: the product before the way back is at most that
reserve times what is then left of the other. -/
theorem Accepts.product_le_back (hpaid : paid ≤ reserveOut)
    (hback : Accepts paid (reserveOut - paid) (reserveIn + amountIn) fee back) :
    (reserveIn + amountIn) * (reserveOut - paid) ≤
      (reserveIn + amountIn - back) * reserveOut := by
  have hproduct := hback.product_le_after
  rw [Nat.sub_add_cancel hpaid] at hproduct
  rw [Nat.mul_comm, Nat.mul_comm _ reserveOut]
  exact hproduct

/-- **What comes back is no more than what went in.** -/
theorem Accepts.back_le (hout : 0 < reserveOut)
    (hthere : Accepts amountIn reserveIn reserveOut fee paid)
    (hback : Accepts paid (reserveOut - paid) (reserveIn + amountIn) fee back) :
    back ≤ amountIn := by
  have hproduct := Nat.le_trans hthere.product_le_after (hback.product_le_back hthere.paid_le)
  have hreserve : reserveIn ≤ reserveIn + amountIn - back :=
    Nat.le_of_mul_le_mul_right hproduct hout
  have hthereIs := hback.paid_le
  omega

/-- **A fee that is kept is missing from what comes back.** -/
theorem Accepts.back_lt (hfee : 0 < fee.removed) (hamount : 0 < amountIn)
    (hleft : paid < reserveOut)
    (hthere : Accepts amountIn reserveIn reserveOut fee paid)
    (hback : Accepts paid (reserveOut - paid) (reserveIn + amountIn) fee back) :
    back < amountIn := by
  have hproduct := Nat.lt_of_lt_of_le (hthere.product_lt_after hfee hamount hleft)
    (hback.product_le_back hthere.paid_le)
  have hreserve : reserveIn < reserveIn + amountIn - back := Nat.lt_of_mul_lt_mul_right hproduct
  have hthereIs := hback.paid_le
  omega

/-- **A round trip makes no profit**, and a loss if there is a fee; at both pools, whatever they
hold. -/
theorem roundTrip_unprofitable (hin : 0 < reserveIn) (hout : 0 < reserveOut)
    (hamount : 0 < amountIn) (fee : Fee) (p q : ScratchPool) {paid back : Nat}
    (hpaid : ((amountOut amountIn reserveIn reserveOut fee).run p).1 = paid)
    (hback : ((amountOut paid (reserveOut - paid) (reserveIn + amountIn) fee).run q).1 = back) :
    0 < reserveOut - paid ∧ back ≤ amountIn ∧ (0 < fee.removed → back < amountIn) := by
  rw [amountOut_run_fst] at hpaid hback
  subst hpaid hback
  have hlt := output_lt hin hout amountIn fee
  have hleft := Nat.sub_pos_of_lt hlt
  have hthere := output_accepted hin amountIn reserveOut fee
  have hreturn := output_accepted hleft (output amountIn reserveIn reserveOut fee)
    (reserveIn + amountIn) fee
  refine ⟨hleft, hthere.back_le hout hreturn, ?_⟩
  intro hfee
  exact hthere.back_lt hfee hamount hlt hreturn

/-- Where both divisions are exact and no fee is kept, all comes back; where nothing is paid for
what came in, nothing does. -/
theorem roundTrip_unprofitable_at_the_edges :
    ((amountOut 5000 5000 5000 ⟨0, by decide⟩).run (ScratchPool.new 1)).1 = 2500 ∧
      ((amountOut 2500 2500 10000 ⟨0, by decide⟩).run (ScratchPool.new 0)).1 = 5000 ∧
      (0 < 5000 - 2500 ∧ 5000 ≤ 5000) ∧
      ((amountOut 1 5000 5000 Fee.percent030).run (ScratchPool.new 1)).1 = 0 ∧
      ((amountOut 0 5000 5001 Fee.percent030).run (ScratchPool.new 0)).1 = 0 ∧
      (0 < 5000 - 0 ∧ 0 < 1) := by
  have hthere : ((amountOut 5000 5000 5000 ⟨0, by decide⟩).run (ScratchPool.new 1)).1 = 2500 := by
    decide +kernel
  have hback : ((amountOut 2500 2500 10000 ⟨0, by decide⟩).run (ScratchPool.new 0)).1 = 5000 := by
    decide +kernel
  have hnothing : ((amountOut 1 5000 5000 Fee.percent030).run (ScratchPool.new 1)).1 = 0 := by
    decide +kernel
  have hnone : ((amountOut 0 5000 5001 Fee.percent030).run (ScratchPool.new 0)).1 = 0 := by
    decide +kernel
  obtain ⟨hleft, hle, -⟩ := roundTrip_unprofitable (Nat.succ_pos 4999) (Nat.succ_pos 4999)
    (Nat.succ_pos 4999) ⟨0, by decide⟩ (ScratchPool.new 1) (ScratchPool.new 0) hthere hback
  obtain ⟨hall, -, hlost⟩ := roundTrip_unprofitable (Nat.succ_pos 4999) (Nat.succ_pos 4999)
    (Nat.succ_pos 0) Fee.percent030 (ScratchPool.new 1) (ScratchPool.new 0) hnothing hnone
  exact ⟨hthere, hback, ⟨hleft, hle⟩, hnothing, hnone, hall, hlost (by decide)⟩

end PairQuote.Swap
