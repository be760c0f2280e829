import Mathlib.Data.List.Induction
import Mathlib.Data.Nat.Digits.Defs
import PairQuote.Address
import PairQuote.Proofs.Pair.Decoding

/-! # Words as rows of bytes

A row of bytes stands for a number, its first byte being the most significant (`byteValue`), and
the last bytes of a number are such a row (`bytesOf`).  Rows of thirty-two bytes are words in this
way, and rows of twenty bytes addresses.

Cutting bytes out of the row of a word takes a part of its number (`Word.part_ofBytes`).
-/
namespace PairQuote

/-- The number that a row of bytes stands for. -/
def byteValue (row : List UInt8) : Nat := Nat.ofDigits 256 (row.reverse.map UInt8.toNat)

/-- The last `width` bytes of a number. -/
def bytesOf : (width : Nat) → Nat → List UInt8
  | 0, _ => []
  | width + 1, n => bytesOf width (n / 256) ++ [UInt8.ofNat n]

/-- The thirty-two bytes of a word. -/
def Word.bytes (w : Word) : List UInt8 := bytesOf 32 w.bits.toNat

/-- The word of thirty-two bytes. -/
def Word.ofBytes (row : List UInt8) : Word := Word.ofNat (byteValue row)

/-- The twenty bytes of an address. -/
def Address.bytes (a : Address) : List UInt8 := bytesOf 20 a.toNat

/-! ## Rows -/

theorem byteValue_append (front back : List UInt8) :
    byteValue (front ++ back) = byteValue front * 256 ^ back.length + byteValue back := by
  unfold byteValue
  rw [List.reverse_append, List.map_append, Nat.ofDigits_append, List.length_map,
    List.length_reverse, Nat.add_comm, Nat.mul_comm]

theorem byteValue_singleton (b : UInt8) : byteValue [b] = b.toNat := Nat.ofDigits_singleton

theorem byteValue_lt (row : List UInt8) : byteValue row < 256 ^ row.length := by
  unfold byteValue
  rw [← List.length_reverse, ← List.length_map UInt8.toNat]
  refine Nat.ofDigits_lt_base_pow_length (by decide) ?_
  intro d hd
  obtain ⟨b, -, rfl⟩ := List.mem_map.mp hd
  exact b.toNat_lt

@[simp] theorem length_bytesOf (width n : Nat) : (bytesOf width n).length = width := by
  induction width generalizing n with
  | zero => rfl
  | succ width ih => rw [bytesOf, List.length_append, ih, List.length_singleton]

/-- The last bytes of a number stand for what is left of it. -/
theorem byteValue_bytesOf (width n : Nat) : byteValue (bytesOf width n) = n % 256 ^ width := by
  induction width generalizing n with
  | zero =>
    rw [Nat.pow_zero, Nat.mod_one]
    rfl
  | succ width ih =>
    have hlast : (UInt8.ofNat n).toNat = n % 256 := UInt8.toNat_ofNat'
    rw [bytesOf, byteValue_append, ih, byteValue_singleton, hlast, List.length_singleton,
      Nat.pow_one, Nat.pow_succ', Nat.mod_mul, Nat.mul_comm, Nat.add_comm]

theorem byteValue_bytesOf_of_lt {width n : Nat} (h : n < 256 ^ width) :
    byteValue (bytesOf width n) = n := by
  rw [byteValue_bytesOf, Nat.mod_eq_of_lt h]

/-- A row is the bytes of the number that it stands for. -/
theorem bytesOf_byteValue (row : List UInt8) : bytesOf row.length (byteValue row) = row := by
  induction row using List.reverseRecOn with
  | nil => rfl
  | append_singleton row b ih =>
    have hb : b.toNat < 256 := b.toNat_lt
    have hvalue : byteValue (row ++ [b]) = byteValue row * 256 + b.toNat := by
      rw [byteValue_append, byteValue_singleton, List.length_singleton, Nat.pow_one]
    have hfront : byteValue (row ++ [b]) / 256 = byteValue row := by omega
    have hlast : UInt8.ofNat (byteValue (row ++ [b])) = b := by
      refine UInt8.toNat_inj.mp ?_
      rw [UInt8.toNat_ofNat']
      omega
    rw [List.length_append, List.length_singleton, bytesOf, hfront, ih, hlast]

theorem pow_bytes (k : Nat) : 256 ^ k = 2 ^ (8 * k) := (Nat.pow_mul 2 8 k).symm

/-- The number of an address is the one that its bytes stand for. -/
theorem Address.byteValue_bytes (a : Address) : byteValue a.bytes = a.toNat :=
  byteValue_bytesOf_of_lt a.bits.isLt

/-- An address is known by its bytes. -/
theorem Address.bytes_inj {a b : Address} (h : a.bytes = b.bytes) : a = b := by
  have hnumber : a.toNat = b.toNat := by
    rw [← Address.byteValue_bytes, ← Address.byteValue_bytes, h]
  exact congrArg Address.mk (BitVec.eq_of_toNat_eq hnumber)

/-! ## Words -/

namespace Word
variable {row front middle back : List UInt8}

/-- The number of a word is the one that its bytes stand for. -/
theorem toNat_ofBytes (h : row.length = 32) : (ofBytes row).bits.toNat = byteValue row := by
  have hfits : byteValue row < 2 ^ 256 := by
    have hlt := byteValue_lt row
    rwa [h, pow_bytes] at hlt
  exact (BitVec.toNat_ofNat _ 256).trans (Nat.mod_eq_of_lt hfits)

theorem toNat_ofBytes_bytesOf {n : Nat} (h : n < 2 ^ 256) :
    (ofBytes (bytesOf 32 n)).bits.toNat = n := by
  rw [toNat_ofBytes (length_bytesOf 32 n), byteValue_bytesOf_of_lt (by rwa [pow_bytes])]

/-- A word is that of its bytes. -/
theorem ofBytes_bytes (w : Word) : ofBytes w.bytes = w := by
  have hsame : (ofBytes w.bytes).bits = w.bits :=
    BitVec.eq_of_toNat_eq (toNat_ofBytes_bytesOf w.bits.isLt)
  exact congrArg Word.mk hsame

/-- Thirty-two bytes are those of their word. -/
theorem bytes_ofBytes (h : row.length = 32) : (ofBytes row).bytes = row := by
  rw [bytes, toNat_ofBytes h, ← h]
  exact bytesOf_byteValue row

theorem part_ofBytes_append (h : (front ++ middle ++ back).length = 32) :
    (ofBytes (front ++ middle ++ back)).part (8 * back.length) (8 * middle.length) =
      byteValue middle := by
  have hback := byteValue_lt back
  have hmiddle := byteValue_lt middle
  have hpos : 0 < 256 ^ back.length := Nat.pow_pos (by decide)
  rw [part, toNat_ofBytes h, byteValue_append, byteValue_append, ← pow_bytes, ← pow_bytes,
    Nat.add_comm, Nat.add_mul_div_right _ _ hpos, Nat.div_eq_of_lt hback, Nat.zero_add,
    Nat.add_comm, Nat.add_mul_mod_self_right, Nat.mod_eq_of_lt hmiddle]

/-- **Bytes that are cut out of a word stand for a part of its number.** -/
theorem part_ofBytes (h : row.length = 32) (first last : Nat) (hle : first ≤ last)
    (hlast : last ≤ 32) : (ofBytes row).part (8 * (32 - last)) (8 * (last - first)) =
      byteValue ((row.take last).drop first) := by
  have hcut : row.take first ++ (row.take last).drop first ++ row.drop last = row := by
    have hfirst : row.take first = (row.take last).take first := by
      rw [List.take_take, Nat.min_eq_left hle]
    rw [hfirst, List.take_append_drop, List.take_append_drop]
  have hmiddle : ((row.take last).drop first).length = last - first := by
    rw [List.length_drop, List.length_take, h, Nat.min_eq_left hlast]
  have hback : (row.drop last).length = 32 - last := by
    rw [List.length_drop, h]
  have hpart := part_ofBytes_append (hcut.symm ▸ h)
  rwa [hcut, hmiddle, hback] at hpart

end Word

end PairQuote
