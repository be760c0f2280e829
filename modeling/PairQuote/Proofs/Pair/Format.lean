import PairQuote.Proofs.Word.Bytes

/-! # The words of a pair as rows of bytes

The word of the reserves is packed: four bytes of time, then fourteen bytes for each of the two
reserves, the second one first.  The reserves are read from their bytes, and nothing of them is
lost: packed again with the time they give the word (`ReservesFormat`).  The word of a token has
the address in its last twenty bytes (`bytes_tokenIn`).

Numbers and rows stand for the same words, so each statement is on the side on which it reads
best.
-/
namespace PairQuote

variable {row : List UInt8}

/-! ## Parts of a word -/

/-- A part is zero if its bits are. -/
theorem Word.part_eq_zero_iff (w : Word) (low width : Nat) : w.part low width = 0 ↔
    ∀ i, low ≤ i → i < low + width → w.bits.toNat.testBit i = false := by
  have hbit : ∀ j, (w.part low width).testBit j =
      (decide (j < width) && w.bits.toNat.testBit (low + j)) := by
    intro j
    rw [part, Nat.testBit_mod_two_pow, Nat.testBit_div_two_pow, Nat.add_comm]
  constructor
  · intro h i hlow hhigh
    obtain ⟨j, rfl⟩ := Nat.exists_eq_add_of_le hlow
    have hj := hbit j
    rw [h, Nat.zero_testBit, decide_eq_true (by omega), Bool.true_and] at hj
    exact hj.symm
  · intro h
    refine Nat.eq_of_testBit_eq fun j => ?_
    rw [hbit, Nat.zero_testBit]
    by_cases hj : j < width
    · rw [h (low + j) (Nat.le_add_right low j) (by omega), Bool.and_false]
    · rw [decide_eq_false hj, Bool.false_and]

/-- Two words have the same reserves if they are the same but for their 32 top bits. -/
theorem Reserves.ofWord_eq_iff (w w' : Word) :
    ofWord w = ofWord w' ↔ w.bits.toNat % 2 ^ 224 = w'.bits.toNat % 2 ^ 224 := by
  have hsides : ofWord w = ofWord w' ↔
      w.part 0 112 = w'.part 0 112 ∧ w.part 112 112 = w'.part 112 112 := by
    rw [← toNat_reserve0, ← toNat_reserve0, ← toNat_reserve1, ← toNat_reserve1, BitVec.toNat_inj,
      BitVec.toNat_inj]
    constructor
    · exact fun h => ⟨congrArg reserve0 h, congrArg reserve1 h⟩
    · exact fun h => congrArg₂ Reserves.mk h.1 h.2
  rw [hsides]
  unfold Word.part
  omega

/-- Two words have the same token if they are the same but for their 96 top bits. -/
theorem Address.ofWord_eq_iff (w w' : Word) :
    ofWord w = ofWord w' ↔ w.bits.toNat % 2 ^ 160 = w'.bits.toNat % 2 ^ 160 := by
  have htoken : ofWord w = ofWord w' ↔ w.part 0 160 = w'.part 0 160 := by
    rw [← w.toNat_extractLsb', ← w'.toNat_extractLsb', BitVec.toNat_inj]
    exact ⟨fun h => congrArg bits h, fun h => congrArg Address.mk h⟩
  rw [htoken]
  unfold Word.part
  omega

/-! ## Reserves -/

/-- The number of a word that packs a time and two reserves. -/
def packed (time reserve1 reserve0 : Nat) : Nat :=
  time * 2 ^ 224 + reserve1 * 2 ^ 112 + reserve0

/-- The reserves of thirty-two bytes. -/
def reservesIn (row : List UInt8) : Reserves := Reserves.ofWord (Word.ofBytes row)

/-- **What is packed is read.** -/
theorem reservesIn_packed {time reserve1 reserve0 : Nat} (htime : time < 2 ^ 32)
    (hreserve1 : reserve1 < 2 ^ 112) (hreserve0 : reserve0 < 2 ^ 112) :
    (reservesIn (bytesOf 32 (packed time reserve1 reserve0))).reserve0.toNat = reserve0 ∧
      (reservesIn (bytesOf 32 (packed time reserve1 reserve0))).reserve1.toNat = reserve1 := by
  have hfits : packed time reserve1 reserve0 < 2 ^ 256 := by
    unfold packed
    omega
  unfold reservesIn
  rw [Reserves.toNat_reserve0, Reserves.toNat_reserve1, Word.part, Word.part,
    Word.toNat_ofBytes_bytesOf hfits]
  unfold packed
  omega

/-- How the reserves of a row of thirty-two bytes are read, and how they compare with those of
another one. -/
structure ReservesFormat (row row' : List UInt8) : Prop where
  slice0 : (reservesIn row).reserve0.toNat = byteValue (row.drop 18)
  slice1 : (reservesIn row).reserve1.toNat = byteValue ((row.take 18).drop 4)
  bounded : (reservesIn row).reserve0.toNat < 2 ^ 112 ∧ (reservesIn row).reserve1.toNat < 2 ^ 112
  /-- Packed again, with the four bytes of the time, they give the row. -/
  restored : bytesOf 32 (packed (byteValue (row.take 4)) (reservesIn row).reserve1.toNat
    (reservesIn row).reserve0.toNat) = row
  same : reservesIn row = reservesIn row' ↔ byteValue row % 2 ^ 224 = byteValue row' % 2 ^ 224
  empty : (reservesIn row).hasEmptySide = true ↔
    (∀ i < 112, (byteValue row).testBit i = false) ∨
      ∀ i, 112 ≤ i → i < 224 → (byteValue row).testBit i = false

theorem reservesFormat (hrow : row.length = 32) {row' : List UInt8} (hrow' : row'.length = 32) :
    ReservesFormat row row' := by
  have hall : row.take 32 = row := List.take_of_length_le (Nat.le_of_eq hrow)
  have hreserve0 : (reservesIn row).reserve0.toNat = (Word.ofBytes row).part 0 112 :=
    Reserves.toNat_reserve0 _
  have hreserve1 : (reservesIn row).reserve1.toNat = (Word.ofBytes row).part 112 112 :=
    Reserves.toNat_reserve1 _
  have htime : byteValue (row.take 4) = (Word.ofBytes row).part 224 32 :=
    (Word.part_ofBytes hrow 0 4 (by decide) (by decide)).symm
  have hvalue : (Word.ofBytes row).bits.toNat = byteValue row := Word.toNat_ofBytes hrow
  have hvalue' : (Word.ofBytes row').bits.toNat = byteValue row' := Word.toNat_ofBytes hrow'
  constructor
  case slice0 =>
    have hslice := Word.part_ofBytes hrow 18 32 (by decide) (by decide)
    rw [hall] at hslice
    exact hreserve0.trans hslice
  case slice1 => exact hreserve1.trans (Word.part_ofBytes hrow 4 18 (by decide) (by decide))
  case bounded => exact ⟨BitVec.isLt _, BitVec.isLt _⟩
  case restored =>
    have hpacked : packed (byteValue (row.take 4)) (reservesIn row).reserve1.toNat
        (reservesIn row).reserve0.toNat = byteValue row := by
      have hfits := (Word.ofBytes row).bits.isLt
      rw [hreserve0, hreserve1, htime, ← hvalue]
      unfold packed Word.part
      omega
    rw [hpacked, ← hrow]
    exact bytesOf_byteValue row
  case same =>
    rw [← hvalue, ← hvalue']
    exact Reserves.ofWord_eq_iff _ _
  case empty =>
    have hzero : (∀ i < 112, (byteValue row).testBit i = false) ↔
        ∀ i, 0 ≤ i → i < 0 + 112 → (byteValue row).testBit i = false := by
      simp
    rw [hzero, ← hvalue]
    unfold reservesIn
    rw [Reserves.hasEmptySide_iff, Word.part_eq_zero_iff, Word.part_eq_zero_iff]

/-! ## Tokens -/

/-- The token of thirty-two bytes. -/
def tokenIn (row : List UInt8) : Address := Address.ofWord (Word.ofBytes row)

/-- **A token is the last twenty bytes of its word.** -/
theorem bytes_tokenIn (hrow : row.length = 32) : (tokenIn row).bytes = row.drop 12 := by
  have hall : row.take 32 = row := List.take_of_length_le (Nat.le_of_eq hrow)
  have hslice := Word.part_ofBytes hrow 12 32 (by decide) (by decide)
  have hnumber : (tokenIn row).toNat = byteValue (row.drop 12) := by
    rw [hall] at hslice
    exact ((Word.ofBytes row).toNat_extractLsb' 0 160).trans hslice
  have hlength : (row.drop 12).length = 20 := by
    rw [List.length_drop, hrow]
  rw [Address.bytes, hnumber, ← hlength]
  exact bytesOf_byteValue _

/-- The bytes before an address do not matter. -/
theorem tokenIn_append {high : List UInt8} (hhigh : high.length = 12) (a : Address) :
    tokenIn (high ++ a.bytes) = a := by
  have hrow : (high ++ a.bytes).length = 32 := by
    rw [List.length_append, hhigh, Address.bytes, length_bytesOf]
  refine Address.bytes_inj ?_
  rw [bytes_tokenIn hrow, ← hhigh, List.drop_left]

theorem tokenIn_eq_iff (hrow : row.length = 32) {row' : List UInt8} (hrow' : row'.length = 32) :
    tokenIn row = tokenIn row' ↔ byteValue row % 2 ^ 160 = byteValue row' % 2 ^ 160 := by
  rw [← Word.toNat_ofBytes hrow, ← Word.toNat_ofBytes hrow']
  exact Address.ofWord_eq_iff _ _

/-- **The format of the words of a pair.**  Thirty-two bytes and words are the same.  Reserves
that are packed are read, whatever the time is; reserves that are read are packed again; and
tokens are read from under any bytes.  What is read of two words is the same if they have the
same 224 low bits, or 160 for a token. -/
theorem storage_format :
    (∀ w : Word, w.bytes.length = 32 ∧ Word.ofBytes w.bytes = w) ∧
    (∀ row : List UInt8, row.length = 32 → (Word.ofBytes row).bytes = row) ∧
    (∀ time reserve1 reserve0 : Nat, time < 2 ^ 32 → reserve1 < 2 ^ 112 → reserve0 < 2 ^ 112 →
      (reservesIn (bytesOf 32 (packed time reserve1 reserve0))).reserve0.toNat = reserve0 ∧
        (reservesIn (bytesOf 32 (packed time reserve1 reserve0))).reserve1.toNat = reserve1) ∧
    (∀ row row' : List UInt8, row.length = 32 → row'.length = 32 → ReservesFormat row row') ∧
    (∀ (high : List UInt8) (a : Address), high.length = 12 → tokenIn (high ++ a.bytes) = a) ∧
    ∀ row row' : List UInt8, row.length = 32 → row'.length = 32 →
      (tokenIn row).bytes = row.drop 12 ∧
        (tokenIn row = tokenIn row' ↔ byteValue row % 2 ^ 160 = byteValue row' % 2 ^ 160) := by
  refine ⟨?_, ?_, ?_, ?_, ?_, ?_⟩
  · exact fun w => ⟨length_bytesOf 32 _, w.ofBytes_bytes⟩
  · exact fun row hrow => Word.bytes_ofBytes hrow
  · exact fun time reserve1 reserve0 => reservesIn_packed
  · exact fun row row' hrow hrow' => reservesFormat hrow hrow'
  · exact fun high a hhigh => tokenIn_append hhigh a
  · exact fun row row' hrow hrow' => ⟨bytes_tokenIn hrow, tokenIn_eq_iff hrow hrow'⟩

/-- All bits of the time and of the first reserve are set, and the second reserve is one; a word
with another time has the same reserves, and bytes in front of an address are not looked at. -/
theorem storage_format_of_full_bits :
    (2 ^ 32 - 1 < 2 ^ 32 ∧ 1 < 2 ^ 112 ∧ 2 ^ 112 - 1 < 2 ^ 112) ∧
      (reservesIn (bytesOf 32 (packed (2 ^ 32 - 1) 1 (2 ^ 112 - 1)))).reserve0.toNat =
        2 ^ 112 - 1 ∧
      (reservesIn (bytesOf 32 (packed (2 ^ 32 - 1) 1 (2 ^ 112 - 1)))).reserve1.toNat = 1 ∧
      reservesIn (bytesOf 32 (packed (2 ^ 32 - 1) 1 (2 ^ 112 - 1))) =
        reservesIn (bytesOf 32 (packed 0 1 (2 ^ 112 - 1))) ∧
      tokenIn (List.replicate 12 255 ++ Address.bytes ⟨1⟩) = ⟨1⟩ := by
  obtain ⟨-, -, hpacked, hreserves, htoken, -⟩ := storage_format
  have hsides := hpacked (2 ^ 32 - 1) 1 (2 ^ 112 - 1) (by decide) (by decide) (by decide)
  have hsame := (hreserves (bytesOf 32 (packed (2 ^ 32 - 1) 1 (2 ^ 112 - 1)))
    (bytesOf 32 (packed 0 1 (2 ^ 112 - 1))) (length_bytesOf 32 _) (length_bytesOf 32 _)).same
  refine ⟨by decide, hsides.1, hsides.2, hsame.mpr ?_, htoken _ ⟨1⟩ (List.length_replicate ..)⟩
  rw [byteValue_bytesOf, byteValue_bytesOf]
  decide

end PairQuote
