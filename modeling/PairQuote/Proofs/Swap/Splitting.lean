import Mathlib.Algebra.GroupWithZero.Nat
import PairQuote.Proofs.ScratchPool.Moves
import PairQuote.Proofs.Swap.Product

/-! # Orders in parts

An order may be placed in parts, each priced against what the earlier ones have left of the
reserves.  `Swap.sellAll` is the pricing of all of them, on one pool.

That never pays more than the order placed at once.  Where a pair accepts two payments one after
the other, it accepts their sum at once (`Accepts.add`); so it accepts at once all that the parts
pay (`sellAll_run`), and what is paid at once is the greatest amount that it accepts.  It does not
matter that each part is rounded down and thereby leaves more to the next.
-/
namespace PairQuote.Swap

/-! ## Two payments -/

/-- What came in first counts as a whole for the second payment, and without the fee if both come
in at once. -/
theorem counted_mul_le (first second reserveIn : Nat) (fee : Fee) :
    counted first reserveIn fee * counted second (reserveIn + first) fee ≤
      counted (first + second) reserveIn fee * ((reserveIn + first) * Fee.denominator) := by
  calc counted first reserveIn fee * counted second (reserveIn + first) fee
      = counted first reserveIn fee * ((reserveIn + first) * Fee.denominator) +
          counted first reserveIn fee * (second * fee.multiplier) := Nat.mul_add _ _ _
    _ ≤ counted first reserveIn fee * ((reserveIn + first) * Fee.denominator) +
          (reserveIn + first) * Fee.denominator * (second * fee.multiplier) :=
        Nat.add_le_add_left (Nat.mul_le_mul_right _ (counted_le first reserveIn fee)) _
    _ = counted (first + second) reserveIn fee * ((reserveIn + first) * Fee.denominator) := by
        rw [counted_add, Nat.add_mul (counted first reserveIn fee),
          Nat.mul_comm (second * fee.multiplier)]

/-- **Two payments one after the other are accepted at once.** -/
theorem Accepts.add {first second reserveIn reserveOut paid later : Nat} {fee : Fee}
    (hin : 0 < reserveIn) (hfirst : Accepts first reserveIn reserveOut fee paid)
    (hsecond : Accepts second (reserveIn + first) (reserveOut - paid) fee later) :
    Accepts (first + second) reserveIn reserveOut fee (paid + later) where
  paid_le := Nat.add_le_of_le_sub' hfirst.paid_le hsecond.paid_le
  product_le := by
    have hgrown : 0 < (reserveIn + first) * Fee.denominator :=
      Nat.mul_pos (Nat.lt_add_right first hin) (by decide)
    have hkept := hfirst.product_le
    have hkeptAgain := hsecond.product_le
    rw [Nat.sub_add_eq]
    generalize reserveOut - paid = between at hkept hkeptAgain ⊢
    -- both products are compared through the reserve between the payments
    refine Nat.le_of_mul_le_mul_right ?_ hgrown
    calc reserveIn * Fee.denominator * reserveOut * ((reserveIn + first) * Fee.denominator)
        ≤ counted first reserveIn fee * between * ((reserveIn + first) * Fee.denominator) :=
          Nat.mul_le_mul_right _ hkept
      _ = counted first reserveIn fee * ((reserveIn + first) * Fee.denominator * between) := by
          rw [Nat.mul_assoc, Nat.mul_comm between]
      _ ≤ counted first reserveIn fee *
            (counted second (reserveIn + first) fee * (between - later)) :=
          Nat.mul_le_mul_left _ hkeptAgain
      _ = counted first reserveIn fee * counted second (reserveIn + first) fee *
            (between - later) := (Nat.mul_assoc _ _ _).symm
      _ ≤ counted (first + second) reserveIn fee * ((reserveIn + first) * Fee.denominator) *
            (between - later) :=
          Nat.mul_le_mul_right _ (counted_mul_le first second reserveIn fee)
      _ = counted (first + second) reserveIn fee * (between - later) *
            ((reserveIn + first) * Fee.denominator) := Nat.mul_right_comm _ _ _

/-! ## A row of payments -/

/-- The reserves of a pair in the direction of a swap. -/
structure Stock where
  reserveIn : Nat
  reserveOut : Nat
  deriving DecidableEq, Repr

/-- Neither reserve is empty. -/
structure Stock.Positive (s : Stock) : Prop where
  reserveIn_pos : 0 < s.reserveIn
  reserveOut_pos : 0 < s.reserveOut

/-- What a swap paid, and what it left. -/
structure Sale where
  paid : Nat
  left : Stock
  deriving DecidableEq, Repr

/-- Prices an amount and moves the reserves by what comes in and goes out. -/
def sell (fee : Fee) (s : Stock) (amountIn : Nat) : StateM ScratchPool Sale := do
  let paid ← amountOut amountIn s.reserveIn s.reserveOut fee
  return ⟨paid, ⟨s.reserveIn + amountIn, s.reserveOut - paid⟩⟩

/-- Prices amounts one after the other, each against what the earlier ones have left. -/
def sellAll (fee : Fee) (s : Stock) : List Nat → StateM ScratchPool (List Sale)
  | [] => return []
  | amountIn :: amounts => do
    let sale ← sell fee s amountIn
    return sale :: (← sellAll fee sale.left amounts)

variable {s : Stock}

theorem sell_run_fst (fee : Fee) (s : Stock) (amountIn : Nat) (p : ScratchPool) :
    ((sell fee s amountIn).run p).1 =
      ⟨output amountIn s.reserveIn s.reserveOut fee, s.reserveIn + amountIn,
        s.reserveOut - output amountIn s.reserveIn s.reserveOut fee⟩ := by
  rw [sell, ScratchPool.run_bind, ScratchPool.run_pure, amountOut_run_fst]

/-- The first payment comes before those for what it leaves. -/
theorem sellAll_run_cons (fee : Fee) (s : Stock) (amountIn : Nat) (amounts : List Nat)
    (p : ScratchPool) : ((sellAll fee s (amountIn :: amounts)).run p).1 =
      ((sell fee s amountIn).run p).1 ::
        ((sellAll fee ((sell fee s amountIn).run p).1.left amounts).run
          ((sell fee s amountIn).run p).2).1 := by
  rw [sellAll, ScratchPool.run_bind, ScratchPool.run_bind, ScratchPool.run_pure]

theorem sell_left (fee : Fee) (s : Stock) (amountIn : Nat) (p : ScratchPool) :
    ((sell fee s amountIn).run p).1.left =
      ⟨s.reserveIn + amountIn, s.reserveOut - ((sell fee s amountIn).run p).1.paid⟩ := rfl

/-- What is left can be sold from again. -/
theorem sell_left_positive (hs : s.Positive) (fee : Fee) (amountIn : Nat) (p : ScratchPool) :
    ((sell fee s amountIn).run p).1.left.Positive := by
  rw [sell_run_fst]
  exact ⟨Nat.lt_add_right amountIn hs.reserveIn_pos,
    Nat.sub_pos_of_lt (output_lt hs.reserveIn_pos hs.reserveOut_pos amountIn fee)⟩

theorem sell_accepts (hs : s.Positive) (fee : Fee) (amountIn : Nat) (p : ScratchPool) :
    Accepts amountIn s.reserveIn s.reserveOut fee ((sell fee s amountIn).run p).1.paid := by
  rw [sell_run_fst]
  exact output_accepted hs.reserveIn_pos amountIn s.reserveOut fee

/-- Whatever is sold in parts, the pair is left with both reserves, and accepts the sum of the
payments for the sum of the amounts. -/
theorem sellAll_run (hs : s.Positive) (fee : Fee) (amounts : List Nat) (p : ScratchPool) :
    (∀ sale ∈ ((sellAll fee s amounts).run p).1, sale.left.Positive) ∧
      Accepts amounts.sum s.reserveIn s.reserveOut fee
        (((sellAll fee s amounts).run p).1.map Sale.paid).sum := by
  induction amounts generalizing s p with
  | nil => exact ⟨nofun, (le_output_iff hs.reserveIn_pos).mp (Nat.zero_le _)⟩
  | cons amountIn amounts ih =>
    have hleft := sell_left_positive hs fee amountIn p
    have hfirst := sell_accepts hs fee amountIn p
    have hreserves := sell_left fee s amountIn p
    obtain ⟨hpositive, hlater⟩ := ih hleft ((sell fee s amountIn).run p).2
    rw [sellAll_run_cons]
    generalize ((sell fee s amountIn).run p).1 = sale at *
    refine ⟨List.forall_mem_cons.mpr ⟨hleft, hpositive⟩, ?_⟩
    rw [hreserves] at hlater
    rw [hreserves, List.map_cons, List.sum_cons, List.sum_cons]
    exact hfirst.add hs.reserveIn_pos hlater

/-- **An order in parts never beats the order at once**, and no part empties a reserve. -/
theorem sellAll_le_amountOut (hs : s.Positive) (fee : Fee) (amounts : List Nat)
    (p q : ScratchPool) :
    (∀ sale ∈ ((sellAll fee s amounts).run p).1, sale.left.Positive) ∧
      (((sellAll fee s amounts).run p).1.map Sale.paid).sum ≤
        ((amountOut amounts.sum s.reserveIn s.reserveOut fee).run q).1 := by
  obtain ⟨hpositive, haccepts⟩ := sellAll_run hs fee amounts p
  refine ⟨hpositive, ?_⟩
  rw [amountOut_run_fst]
  exact (le_output_iff hs.reserveIn_pos).mpr haccepts

/-- Three parts, of which one is empty, pay one unit less than the whole. -/
theorem sellAll_le_amountOut_of_three_parts :
    ((sellAll Fee.percent030 ⟨5000, 5000⟩ [1000, 0, 500]).run (ScratchPool.new 1)).1 =
        [⟨831, 6000, 4169⟩, ⟨0, 6000, 4169⟩, ⟨319, 6500, 3850⟩] ∧
      [831, 0, 319].sum ≤
        ((amountOut 1500 5000 5000 Fee.percent030).run (ScratchPool.new 0)).1 := by
  have hs : Stock.Positive ⟨5000, 5000⟩ := ⟨Nat.succ_pos 4999, Nat.succ_pos 4999⟩
  have hsales : ((sellAll Fee.percent030 ⟨5000, 5000⟩ [1000, 0, 500]).run (ScratchPool.new 1)).1 =
      [⟨831, 6000, 4169⟩, ⟨0, 6000, 4169⟩, ⟨319, 6500, 3850⟩] := by decide +kernel
  have hparts := (sellAll_le_amountOut hs Fee.percent030 [1000, 0, 500] (ScratchPool.new 1)
    (ScratchPool.new 0)).2
  rw [hsales] at hparts
  exact ⟨hsales, hparts⟩

end PairQuote.Swap
