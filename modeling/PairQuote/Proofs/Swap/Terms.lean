import PairQuote.Proofs.Swap.Product

/-! # Better terms

The **terms** of a swap are the four things that it is priced by.  They get better for who places
the order if more comes in, if the pair holds more of what is asked for or less of what is given,
and if the fee is lower (`Terms.NoBetter`).

In all four, the condition that a pair sets for a payment can only ease: it compares what goes out,
counted in the reserve that takes, with what comes in, counted in what is left of the other
(`accepts_iff_price`).  So what is accepted stays accepted when terms get better
(`Accepts.of_noBetter`), and better terms never pay less (`Terms.payout_le`).  The same condition
bounds a payment from a pair that holds no more of what is asked for than of what is given
(`output_lt_amountIn`).
-/
namespace PairQuote.Swap
variable {amountIn reserveIn reserveOut paid : Nat} {fee : Fee}

/-! ## The price of a payment -/

/-- A pair accepts to pay what it has, if that, counted in the one reserve, costs no more than what
comes in, counted in what is then left of the other. -/
theorem accepts_iff_price : Accepts amountIn reserveIn reserveOut fee paid ↔
    paid ≤ reserveOut ∧
      reserveIn * Fee.denominator * paid ≤ amountIn * fee.multiplier * (reserveOut - paid) := by
  have hcondition : paid ≤ reserveOut →
      (reserveIn * Fee.denominator * reserveOut ≤
          counted amountIn reserveIn fee * (reserveOut - paid) ↔
        reserveIn * Fee.denominator * paid ≤
          amountIn * fee.multiplier * (reserveOut - paid)) := by
    intro hpaid
    obtain ⟨left, rfl⟩ := Nat.exists_eq_add_of_le hpaid
    rw [Nat.add_sub_cancel_left, counted, Nat.mul_add, Nat.add_mul, Nat.add_comm,
      Nat.add_le_add_iff_left]
  constructor
  · intro haccepts
    exact ⟨haccepts.paid_le, (hcondition haccepts.paid_le).mp haccepts.product_le⟩
  · rintro ⟨hpaid, hprice⟩
    exact ⟨hpaid, (hcondition hpaid).mpr hprice⟩

/-! ## Terms -/

/-- What a swap is priced by. -/
structure Terms where
  amountIn : Nat
  reserveIn : Nat
  reserveOut : Nat
  fee : Fee
  deriving DecidableEq, Repr

namespace Terms

/-- The pair has both tokens. -/
structure Positive (t : Terms) : Prop where
  reserveIn_pos : 0 < t.reserveIn
  reserveOut_pos : 0 < t.reserveOut

/-- What is paid on these terms, at a pool. -/
def payout (t : Terms) (p : ScratchPool) : Nat :=
  ((amountOut t.amountIn t.reserveIn t.reserveOut t.fee).run p).1

/-- In nothing are the terms `t` better than the terms `u`. -/
structure NoBetter (t u : Terms) : Prop where
  amountIn_le : t.amountIn ≤ u.amountIn
  reserveIn_le : u.reserveIn ≤ t.reserveIn
  reserveOut_le : t.reserveOut ≤ u.reserveOut
  removed_le : u.fee.removed ≤ t.fee.removed

theorem NoBetter.multiplier_le {t u : Terms} (h : t.NoBetter u) :
    t.fee.multiplier ≤ u.fee.multiplier :=
  Nat.sub_le_sub_left h.removed_le _

end Terms

/-- **What is accepted stays accepted on better terms.** -/
theorem Accepts.of_noBetter {t u : Terms} (h : t.NoBetter u)
    (haccepts : Accepts t.amountIn t.reserveIn t.reserveOut t.fee paid) :
    Accepts u.amountIn u.reserveIn u.reserveOut u.fee paid := by
  obtain ⟨hpaid, hprice⟩ := accepts_iff_price.mp haccepts
  refine accepts_iff_price.mpr ⟨Nat.le_trans hpaid h.reserveOut_le, ?_⟩
  calc u.reserveIn * Fee.denominator * paid
      ≤ t.reserveIn * Fee.denominator * paid :=
        Nat.mul_le_mul_right _ (Nat.mul_le_mul_right _ h.reserveIn_le)
    _ ≤ t.amountIn * t.fee.multiplier * (t.reserveOut - paid) := hprice
    _ ≤ u.amountIn * u.fee.multiplier * (u.reserveOut - paid) :=
        Nat.mul_le_mul (Nat.mul_le_mul h.amountIn_le h.multiplier_le)
          (Nat.sub_le_sub_right h.reserveOut_le _)

/-- **Better terms never pay less**, whatever the pools hold. -/
theorem Terms.payout_le {t u : Terms} (h : t.NoBetter u) (ht : 0 < t.reserveIn)
    (hu : 0 < u.reserveIn) (p q : ScratchPool) : t.payout p ≤ u.payout q := by
  unfold Terms.payout
  rw [amountOut_run_fst, amountOut_run_fst]
  have haccepts := output_accepted ht t.amountIn t.reserveOut t.fee
  exact (le_output_iff hu).mpr (haccepts.of_noBetter h)

/-! ## Bounds -/

/-- From a pair that holds no more of what is asked for than of what is given, less goes out than
came in. -/
theorem output_lt_amountIn (hin : 0 < reserveIn) (hamount : 0 < amountIn)
    (hle : reserveOut ≤ reserveIn) (fee : Fee) :
    output amountIn reserveIn reserveOut fee < amountIn := by
  refine Nat.lt_of_not_le fun hall => ?_
  -- as much as came in would have to be accepted
  obtain ⟨hpaid, hprice⟩ := accepts_iff_price.mp ((le_output_iff hin).mp hall)
  have hless : reserveOut - amountIn < reserveIn := by omega
  have hmultiplier : fee.multiplier ≤ Fee.denominator := Nat.sub_le _ _
  refine Nat.not_le_of_lt ?_ hprice
  calc amountIn * fee.multiplier * (reserveOut - amountIn)
      ≤ amountIn * Fee.denominator * (reserveOut - amountIn) :=
        Nat.mul_le_mul_right _ (Nat.mul_le_mul_left _ hmultiplier)
    _ < amountIn * Fee.denominator * reserveIn :=
        Nat.mul_lt_mul_of_pos_left hless (Nat.mul_pos hamount (by decide))
    _ = reserveIn * Fee.denominator * amountIn := by
        rw [Nat.mul_comm, Nat.mul_comm amountIn, Nat.mul_assoc]

/-! ## The payment and its terms -/

/-- How what is paid moves with each of the terms, and what it stays below. -/
structure Terms.PaidInOrder (t : Terms) : Prop where
  /-- More that comes in never pays less. -/
  amountIn_mono : ∀ more, t.amountIn ≤ more → ∀ p q,
    t.payout p ≤ { t with amountIn := more }.payout q
  /-- A greater reserve of what is asked for never pays less. -/
  reserveOut_mono : ∀ more, t.reserveOut ≤ more → ∀ p q,
    t.payout p ≤ { t with reserveOut := more }.payout q
  /-- A greater reserve of what is given never pays more. -/
  reserveIn_anti : ∀ more, t.reserveIn ≤ more → ∀ p q,
    { t with reserveIn := more }.payout q ≤ t.payout p
  /-- A higher fee never pays more. -/
  fee_anti : ∀ higher : Fee, t.fee.removed ≤ higher.removed → ∀ p q,
    { t with fee := higher }.payout q ≤ t.payout p
  /-- Something is left. -/
  lt_reserveOut : ∀ p, t.payout p < t.reserveOut
  /-- From a pair that holds no more of what is asked for than of what is given, less goes out than
  came in. -/
  lt_amountIn : 0 < t.amountIn → t.reserveOut ≤ t.reserveIn → ∀ p, t.payout p < t.amountIn

/-- **Payments move with their terms**, and stay below the reserve and, from a pair that is no
richer in what is asked for, below the amount. -/
theorem paidInOrder {t : Terms} (ht : t.Positive) : t.PaidInOrder where
  amountIn_mono more hmore := by
    have hle : t.NoBetter { t with amountIn := more } :=
      ⟨hmore, Nat.le_refl _, Nat.le_refl _, Nat.le_refl _⟩
    exact Terms.payout_le hle ht.reserveIn_pos ht.reserveIn_pos
  reserveOut_mono more hmore := by
    have hle : t.NoBetter { t with reserveOut := more } :=
      ⟨Nat.le_refl _, Nat.le_refl _, hmore, Nat.le_refl _⟩
    exact Terms.payout_le hle ht.reserveIn_pos ht.reserveIn_pos
  reserveIn_anti more hmore p q := by
    have hle : { t with reserveIn := more }.NoBetter t :=
      ⟨Nat.le_refl _, hmore, Nat.le_refl _, Nat.le_refl _⟩
    exact Terms.payout_le hle (Nat.lt_of_lt_of_le ht.reserveIn_pos hmore) ht.reserveIn_pos q p
  fee_anti higher hhigher p q := by
    have hle : { t with fee := higher }.NoBetter t :=
      ⟨Nat.le_refl _, Nat.le_refl _, Nat.le_refl _, hhigher⟩
    exact Terms.payout_le hle ht.reserveIn_pos ht.reserveIn_pos q p
  lt_reserveOut p := by
    rw [Terms.payout, amountOut_run_fst]
    exact output_lt ht.reserveIn_pos ht.reserveOut_pos t.amountIn t.fee
  lt_amountIn hamount hle p := by
    rw [Terms.payout, amountOut_run_fst]
    exact output_lt_amountIn ht.reserveIn_pos hamount hle t.fee

/-- An even pair: one more in, one more or fewer held, a preset fee or one that is not. -/
theorem paidInOrder_of_even_pair :
    (⟨1000, 5000, 5000, Fee.percent030⟩ : Terms).payout (ScratchPool.new 1) = 831 ∧
      831 ≤ (⟨1001, 5000, 5000, Fee.percent030⟩ : Terms).payout (ScratchPool.new 0) ∧
      831 ≤ (⟨1000, 5000, 5001, Fee.percent030⟩ : Terms).payout (ScratchPool.new 0) ∧
      (⟨1000, 5001, 5000, Fee.percent030⟩ : Terms).payout (ScratchPool.new 0) ≤ 831 ∧
      (⟨1000, 5000, 5000, ⟨4, by decide⟩⟩ : Terms).payout (ScratchPool.new 0) ≤ 831 ∧
      831 < 5000 ∧ 831 < 1000 := by
  have hpaid : (⟨1000, 5000, 5000, Fee.percent030⟩ : Terms).payout (ScratchPool.new 1) = 831 := by
    decide +kernel
  have hordered := paidInOrder (t := ⟨1000, 5000, 5000, Fee.percent030⟩)
    ⟨Nat.succ_pos 4999, Nat.succ_pos 4999⟩
  rw [← hpaid]
  exact ⟨hpaid, hordered.amountIn_mono 1001 (by decide) _ _,
    hordered.reserveOut_mono 5001 (by decide) _ _, hordered.reserveIn_anti 5001 (by decide) _ _,
    hordered.fee_anti ⟨4, by decide⟩ (by decide) _ _, hordered.lt_reserveOut _,
    hordered.lt_amountIn (by decide) (Nat.le_refl _) _⟩

end PairQuote.Swap
