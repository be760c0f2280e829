import Mathlib.Data.Prod.Basic
import PairQuote.Proofs.Pair.Decoding

/-! # Direction and labels

A pair calls one of its tokens the first.  This is a **label** and no more: with the labels of
two different tokens exchanged, together with what belongs to them, `Pair.orient` finds the same
sides.  Asked for the other **direction** it finds them in the other order.  A pair of one token
twice is left out: there both labels fit, and the first one is taken.

What carries the labels in storage are the two token slots and the two halves of the reserves
word; `Word.exchanged` exchanges the latter and leaves the time alone.
-/
namespace PairQuote

namespace Refusal

/-- A refusal of the request for the other direction. -/
def turned : Refusal → Refusal
  | .tokenMismatch src dst token0 token1 => .tokenMismatch dst src token0 token1
  | e => e

/-- A refusal by the pair with its labels exchanged. -/
def relabelled : Refusal → Refusal
  | .tokenMismatch src dst token0 token1 => .tokenMismatch src dst token1 token0
  | e => e

/-- The kind of a refusal has nothing to do with labels. -/
theorem code_relabelled (e : Refusal) : e.relabelled.code = e.code := by
  cases e <;> rfl

end Refusal

namespace Pair
variable {α : Type} {src dst token0 token1 : Address} {side0 side1 : α}

theorem orient_of_direct (h : src = token0 ∧ dst = token1) :
    orient src dst token0 token1 side0 side1 = .ok (side0, side1) :=
  if_pos h

/-- The reversed order counts if the tokens are not in the order of the pair. -/
theorem orient_of_reversed (hdirect : ¬(src = token0 ∧ dst = token1))
    (h : src = token1 ∧ dst = token0) :
    orient src dst token0 token1 side0 side1 = .ok (side1, side0) :=
  (if_neg hdirect).trans (if_pos h)

theorem orient_of_foreign (hdirect : ¬(src = token0 ∧ dst = token1))
    (hreversed : ¬(src = token1 ∧ dst = token0)) :
    orient src dst token0 token1 side0 side1 = .error (.tokenMismatch src dst token0 token1) :=
  (if_neg hdirect).trans (if_neg hreversed)

/-- Tokens in both orders at once are one token. -/
theorem not_direct_of_reversed (hne : token0 ≠ token1) (h : src = token1 ∧ dst = token0) :
    ¬(src = token0 ∧ dst = token1) :=
  fun hdirect => hne (hdirect.1.symm.trans h.1)

/-- How ordering treats the two directions and the two labels. -/
structure OrientsEvenly (src dst token0 token1 : Address) (side0 side1 : α) : Prop where
  /-- Only the two tokens of the pair are ordered, in whichever order they come. -/
  succeeds : (∃ found, orient src dst token0 token1 side0 side1 = .ok found) ↔
    (src, dst) = (token0, token1) ∨ (src, dst) = (token1, token0)
  /-- Tokens in the order of the pair leave the sides in theirs. -/
  direct : (src, dst) = (token0, token1) →
    orient src dst token0 token1 side0 side1 = .ok (side0, side1)
  /-- The other direction has the sides in the other order, or is refused as well. -/
  turned : token0 ≠ token1 → orient dst src token0 token1 side0 side1 =
    ((orient src dst token0 token1 side0 side1).map Prod.swap).mapError .turned
  /-- Exchanged labels change nothing but the refusal, which names the tokens in their order. -/
  relabelled : token0 ≠ token1 → orient src dst token1 token0 side1 side0 =
    (orient src dst token0 token1 side0 side1).mapError .relabelled

theorem orientsEvenly (src dst token0 token1 : Address) (side0 side1 : α) :
    OrientsEvenly src dst token0 token1 side0 side1 := by
  by_cases hdirect : src = token0 ∧ dst = token1
  · refine ⟨⟨fun _ => .inl (Prod.ext hdirect.1 hdirect.2), fun _ => ⟨_, orient_of_direct hdirect⟩⟩,
      fun _ => orient_of_direct hdirect, fun hne => ?_, fun hne => ?_⟩
    · rw [orient_of_direct hdirect,
        orient_of_reversed (not_direct_of_reversed hne hdirect.symm) hdirect.symm]
      rfl
    · rw [orient_of_direct hdirect,
        orient_of_reversed (not_direct_of_reversed hne.symm hdirect) hdirect]
      rfl
  by_cases hreversed : src = token1 ∧ dst = token0
  · refine ⟨⟨fun _ => .inr (Prod.ext hreversed.1 hreversed.2),
        fun _ => ⟨_, orient_of_reversed hdirect hreversed⟩⟩,
      fun h => absurd (Prod.mk.inj h) hdirect, fun _ => ?_, fun _ => ?_⟩
    · rw [orient_of_reversed hdirect hreversed, orient_of_direct hreversed.symm]
      rfl
    · rw [orient_of_reversed hdirect hreversed, orient_of_direct hreversed]
      rfl
  have hforeign : orient src dst token0 token1 side0 side1 =
      .error (.tokenMismatch src dst token0 token1) := orient_of_foreign hdirect hreversed
  refine ⟨⟨?_, ?_⟩, fun h => absurd (Prod.mk.inj h) hdirect, fun _ => ?_, fun _ => ?_⟩
  · rintro ⟨found, hfound⟩
    rw [hforeign] at hfound
    cases hfound
  · rintro (h | h)
    · exact absurd (Prod.mk.inj h) hdirect
    · exact absurd (Prod.mk.inj h) hreversed
  · rw [hforeign, orient_of_foreign (fun h => hreversed h.symm) (fun h => hdirect h.symm)]
    rfl
  · rw [hforeign, orient_of_foreign hreversed hdirect]
    rfl

end Pair

/-! ## The halves of a reserves word -/

namespace Reserves

/-- The reserves of the pair with its labels exchanged. -/
def exchanged (r : Reserves) : Reserves := ⟨r.reserve1, r.reserve0⟩

/-- Reserves are read from the word that holds them, whatever the time. -/
theorem ofWord_toWord (time : BitVec 32) (r : Reserves) : ofWord (r.toWord time) = r := by
  have hreserve0 : (time ++ (r.reserve1 ++ r.reserve0)).extractLsb' 0 112 = r.reserve0 := by
    rw [BitVec.extractLsb'_append_eq_of_add_le (by decide)]
    exact BitVec.extractLsb'_append_eq_right
  have hreserve1 : (time ++ (r.reserve1 ++ r.reserve0)).extractLsb' 112 112 = r.reserve1 := by
    rw [BitVec.extractLsb'_append_eq_of_add_le (by decide)]
    exact BitVec.extractLsb'_append_eq_left
  exact congrArg₂ Reserves.mk hreserve0 hreserve1

end Reserves

namespace Word

/-- A reserves word with its two halves of 112 bits exchanged, under the same time. -/
def exchanged (w : Word) : Word :=
  (Reserves.ofWord w).exchanged.toWord (w.bits.extractLsb' 224 32)

/-- Each half of the exchanged word is the other half of the word. -/
theorem part_exchanged (w : Word) :
    w.exchanged.part 0 112 = w.part 112 112 ∧ w.exchanged.part 112 112 = w.part 0 112 := by
  have hread : Reserves.ofWord w.exchanged = (Reserves.ofWord w).exchanged :=
    Reserves.ofWord_toWord _ _
  constructor
  · rw [← Reserves.toNat_reserve0, hread, ← Reserves.toNat_reserve1 w]
    rfl
  · rw [← Reserves.toNat_reserve1, hread, ← Reserves.toNat_reserve0 w]
    rfl

end Word

end PairQuote
