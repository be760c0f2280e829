import PairQuote.Proofs.Text.Letters
import PairQuote.Proofs.Word.Bytes
import PairQuote.Text.Utf8

/-! # Digits of base sixteen and bytes

A row of digits of base sixteen has to do with bytes in two ways.  It is text, and as text its
bytes are the codes of digits, one for each: no other row has such bytes
(`all_isHexByte_toUtf8_iff`).  And it spells bytes, one with every two digits, which stand for the
same number as the row (`byteValue_pairValues`).
-/
namespace PairQuote.Text

variable {row : List Char}

/-! ## The bytes of the text -/

/-- The code of a digit of base sixteen, in either case. -/
def isHexByte (b : Nat) : Bool :=
  (0x30 ≤ b && b ≤ 0x39) || (0x41 ≤ b && b ≤ 0x46) || (0x61 ≤ b && b ≤ 0x66)

/-- A character that takes several bytes begins with one that is not the code of a digit. -/
theorem utf8EncodeChar_of_large {c : Char} (hc : 128 ≤ c.toNat) :
    ∃ first rest, String.utf8EncodeChar c = first :: rest ∧ 0xC0 ≤ first.toNat := by
  have hval : c.val.toNat = c.toNat := rfl
  unfold String.utf8EncodeChar
  rw [if_neg (by omega)]
  split
  · refine ⟨_, _, rfl, ?_⟩
    rw [UInt8.toNat_ofNat']
    omega
  · split
    · refine ⟨_, _, rfl, ?_⟩
      rw [UInt8.toNat_ofNat']
      omega
    · refine ⟨_, _, rfl, ?_⟩
      rw [UInt8.toNat_ofNat']
      omega

/-- The bytes of a character pass a test exactly if it is one of a class, where both can be tried
on the first 128 characters, no other character is of the class, and no byte that begins another
character passes. -/
theorem all_bytes_iff {test : Nat → Bool} {P : Char → Prop}
    (hsmall : ∀ n : Fin 128,
      ((String.utf8EncodeChar (Char.ofNat n)).all fun b => test b.toNat) = true ↔ P (Char.ofNat n))
    (hclass : ∀ c, P c → c.toNat < 128) (hlarge : ∀ b, 0xC0 ≤ b → test b = false) (c : Char) :
    ((String.utf8EncodeChar c).all fun b => test b.toNat) = true ↔ P c := by
  by_cases hc : c.toNat < 128
  · exact forall_ascii
      (P := fun c => ((String.utf8EncodeChar c).all fun b => test b.toNat) = true ↔ P c)
      hsmall c hc
  · obtain ⟨first, rest, hbytes, hfirst⟩ := utf8EncodeChar_of_large (Nat.le_of_not_lt hc)
    rw [hbytes, List.all_cons, hlarge first.toNat hfirst, Bool.false_and]
    exact ⟨nofun, fun h => absurd (hclass c h) hc⟩

/-- **The bytes of a row pass a test exactly if its characters are all of the class.** -/
theorem all_toUtf8_iff {test : Nat → Bool} {P : Char → Prop}
    (hsmall : ∀ n : Fin 128,
      ((String.utf8EncodeChar (Char.ofNat n)).all fun b => test b.toNat) = true ↔ P (Char.ofNat n))
    (hclass : ∀ c, P c → c.toNat < 128) (hlarge : ∀ b, 0xC0 ≤ b → test b = false)
    (row : List Char) : (toUtf8 row).all test = true ↔ ∀ c ∈ row, P c := by
  induction row with
  | nil => exact ⟨fun _ => nofun, fun _ => rfl⟩
  | cons c row ih =>
    rw [toUtf8, List.flatMap_cons, List.all_append, Bool.and_eq_true, List.all_map, ← toUtf8, ih]
    exact (and_congr_left fun _ => all_bytes_iff hsmall hclass hlarge c).trans
      List.forall_mem_cons.symm

theorem length_utf8EncodeChar_of_hex {c : Char} (h : IsHexDigit c) :
    (String.utf8EncodeChar c).length = 1 :=
  forall_ascii (P := fun c => IsHexDigit c → (String.utf8EncodeChar c).length = 1)
    (by decide +kernel) c h.toNat_lt h

/-- **The bytes of a row are codes of digits exactly if it is a row of digits.** -/
theorem all_isHexByte_toUtf8_iff (row : List Char) :
    (toUtf8 row).all isHexByte = true ↔ IsHexRow row := by
  refine all_toUtf8_iff (P := IsHexDigit) (by decide +kernel) (fun _ h => h.toNat_lt) ?_ row
  intro b hb
  simp only [isHexByte, Bool.or_eq_false_iff, Bool.and_eq_false_iff, decide_eq_false_iff_not]
  omega

/-- Such a row has as many bytes as digits. -/
theorem length_toUtf8_of_hex (h : IsHexRow row) : (toUtf8 row).length = row.length := by
  induction row with
  | nil => rfl
  | cons c row ih =>
    obtain ⟨hc, hrow⟩ := List.forall_mem_cons.mp h
    rw [toUtf8, List.flatMap_cons, List.length_append, List.length_map,
      length_utf8EncodeChar_of_hex hc, ← toUtf8, ih hrow, List.length_cons, Nat.add_comm]

/-! ## The bytes that are spelled -/

/-- The bytes that a row of digits spells, with two digits for each. -/
def pairValues : List Char → List UInt8
  | [] => []
  | [_] => []
  | high :: low :: row => UInt8.ofNat (hexNumber [high, low]) :: pairValues row

theorem length_pairValues (row : List Char) : (pairValues row).length = row.length / 2 := by
  induction row using pairValues.induct with
  | case1 => rfl
  | case2 c => simp [pairValues]
  | case3 high low row ih =>
    rw [pairValues, List.length_cons, ih, List.length_cons, List.length_cons]
    omega

/-- Two digits stand for a byte. -/
theorem toNat_ofNat_pair (high low : Char) :
    (UInt8.ofNat (hexNumber [high, low])).toNat = hexNumber [high, low] := by
  have hhigh := getD_hexValue?_lt high
  have hlow := getD_hexValue?_lt low
  have hpair : hexNumber [high, low] =
      (hexValue? high).getD 0 * 16 + (hexValue? low).getD 0 := by
    rw [← List.singleton_append, hexNumber_append, hexNumber_singleton, hexNumber_singleton,
      List.length_singleton, Nat.pow_one]
  rw [UInt8.toNat_ofNat', Nat.mod_eq_of_lt (by omega)]

/-- **The bytes that a row spells stand for its number.** -/
theorem byteValue_pairValues (heven : row.length % 2 = 0) :
    byteValue (pairValues row) = hexNumber row := by
  induction row using pairValues.induct with
  | case1 => rfl
  | case2 c => cases heven
  | case3 high low row ih =>
    rw [List.length_cons, List.length_cons] at heven
    have hrow : row.length % 2 = 0 := by omega
    have hpow : 256 ^ (row.length / 2) = 16 ^ row.length := by
      obtain ⟨k, hk⟩ := Nat.dvd_of_mod_eq_zero hrow
      rw [hk, Nat.mul_div_cancel_left k Nat.zero_lt_two, Nat.pow_mul]
    calc byteValue (pairValues (high :: low :: row))
        = byteValue [UInt8.ofNat (hexNumber [high, low])] * 256 ^ (pairValues row).length +
            byteValue (pairValues row) := byteValue_append [_] (pairValues row)
      _ = hexNumber [high, low] * 16 ^ row.length + hexNumber row := by
          rw [byteValue_singleton, toNat_ofNat_pair, length_pairValues, hpow, ih hrow]
      _ = hexNumber (high :: low :: row) := (hexNumber_append [high, low] row).symm

end PairQuote.Text
