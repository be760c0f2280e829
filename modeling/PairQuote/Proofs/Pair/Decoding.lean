import PairQuote.Pair.Layout
import Mathlib.Algebra.Group.Nat.Defs

/-! # Decoding by numbers

The library takes tokens and reserves out of a word by its bits.  `Word.part` says the
same in numbers: divide away the bits below, keep what is under a power of two.  The
lemmas here pass from one to the other, so that later statements can speak of numbers
only: a token is the part of 160 bits from bit 0, the reserves are the parts of 112 bits
from bit 0 and from bit 112.
-/
namespace PairQuote

/-- The number in `width` bits of a word, from bit `low` on. -/
def Word.part (w : Word) (low width : Nat) : Nat := w.bits.toNat / 2 ^ low % 2 ^ width

/-- A cut of bits is the part of the word, as a number. -/
theorem Word.toNat_extractLsb' (w : Word) (low width : Nat) :
    (w.bits.extractLsb' low width).toNat = w.part low width := by
  rw [BitVec.extractLsb'_toNat, Nat.shiftRight_eq_div_pow, Word.part]

theorem Word.extractLsb'_eq_zero_iff (w : Word) (low width : Nat) :
    w.bits.extractLsb' low width = 0 ↔ w.part low width = 0 := by
  rw [← w.toNat_extractLsb', ← BitVec.toNat_inj]
  rfl

/-- The token of a word is the address of its low 160 bits. -/
theorem Address.ofWord_eq (w : Word) :
    Address.ofWord w = ⟨BitVec.ofNat 160 (w.part 0 160)⟩ := by
  rw [← w.toNat_extractLsb', BitVec.ofNat_toNat, BitVec.setWidth_eq]
  rfl

theorem Address.ofWord_eq_zero_iff (w : Word) :
    Address.ofWord w = Address.zero ↔ w.part 0 160 = 0 := by
  rw [← w.extractLsb'_eq_zero_iff]
  exact ⟨fun h => congrArg Address.bits h, fun h => congrArg Address.mk h⟩

namespace Reserves

@[simp] theorem toNat_reserve0 (w : Word) : (ofWord w).reserve0.toNat = w.part 0 112 :=
  w.toNat_extractLsb' 0 112

@[simp] theorem toNat_reserve1 (w : Word) : (ofWord w).reserve1.toNat = w.part 112 112 :=
  w.toNat_extractLsb' 112 112

theorem reserve0_eq_zero_iff (w : Word) : (ofWord w).reserve0 = 0 ↔ w.part 0 112 = 0 :=
  w.extractLsb'_eq_zero_iff 0 112

theorem reserve1_eq_zero_iff (w : Word) : (ofWord w).reserve1 = 0 ↔ w.part 112 112 = 0 :=
  w.extractLsb'_eq_zero_iff 112 112

theorem hasEmptySide_iff (w : Word) :
    (ofWord w).hasEmptySide = true ↔ w.part 0 112 = 0 ∨ w.part 112 112 = 0 := by
  rw [hasEmptySide, Bool.or_eq_true, beq_iff_eq, beq_iff_eq, reserve0_eq_zero_iff,
    reserve1_eq_zero_iff]

end Reserves

end PairQuote
