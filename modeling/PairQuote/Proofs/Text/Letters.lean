import PairQuote.Proofs.Text.Digits
import PairQuote.Text.Pieces

/-! # Letters in either case

Six of the digits of base sixteen are letters, and they are read in either case.  So a row stands
for the same number when its letters are put in lower case (`valueOf?_lower`).  Numbers are written
with small letters: a row that is read and written again is the row in lower case
(`fixedDigits_hexNumber`).

Both come down to single characters.  Digits are among the first 128, where every one can be tried
(`forall_ascii`).
-/
namespace PairQuote.Text

variable {c : Char} {row : List Char}

/-! ## Characters -/

/-- What holds of each of the first 128 characters. -/
theorem forall_ascii {P : Char → Prop} (hall : ∀ n : Fin 128, P (Char.ofNat n)) (c : Char)
    (hc : c.toNat < 128) : P c := by
  have hP := hall ⟨c.toNat, hc⟩
  rwa [Char.ofNat_toNat] at hP

theorem IsHexDigit.toNat_lt (h : IsHexDigit c) : c.toNat < 128 := by
  have h9 : '9'.toNat = 57 := rfl
  have hf : 'f'.toNat = 102 := rfl
  have hF : 'F'.toNat = 70 := rfl
  simp only [IsHexDigit, charLe_iff] at h
  omega

theorem lowerChar_of_large (h : 128 ≤ c.toNat) : lowerChar c = c := by
  have hZ : 'Z'.toNat = 90 := rfl
  refine if_neg fun hupper => ?_
  have hle := hupper.2
  rw [charLe_iff] at hle
  omega

/-- What does not depend on the case of the first 128 characters depends on that of none. -/
theorem apply_lowerChar {α : Type} (f : Char → α)
    (hall : ∀ n : Fin 128, f (lowerChar (Char.ofNat n)) = f (Char.ofNat n)) (c : Char) :
    f (lowerChar c) = f c := by
  by_cases hc : c.toNat < 128
  · exact forall_ascii (P := fun c => f (lowerChar c) = f c) hall c hc
  · rw [lowerChar_of_large (Nat.le_of_not_lt hc)]

theorem hexValue?_lowerChar (c : Char) : hexValue? (lowerChar c) = hexValue? c :=
  apply_lowerChar hexValue? (by decide +kernel) c

/-- A digit is written in lower case. -/
theorem digitChar_hexValue (h : IsHexDigit c) : digitChar ((hexValue? c).getD 0) = lowerChar c :=
  forall_ascii (P := fun c => IsHexDigit c → digitChar ((hexValue? c).getD 0) = lowerChar c)
    (by decide +kernel) c h.toNat_lt h

/-- A digit of base sixteen that is no capital letter. -/
def IsSmallHexDigit (c : Char) : Prop := ('0' ≤ c ∧ c ≤ '9') ∨ ('a' ≤ c ∧ c ≤ 'f')

instance (c : Char) : Decidable (IsSmallHexDigit c) := inferInstanceAs (Decidable (_ ∨ _))

theorem isSmallHexDigit_iff : IsSmallHexDigit c ↔ IsHexDigit c ∧ lowerChar c = c := by
  by_cases hc : c.toNat < 128
  · exact forall_ascii (P := fun c => IsSmallHexDigit c ↔ IsHexDigit c ∧ lowerChar c = c)
      (by decide +kernel) c hc
  · have hlarge : ¬IsHexDigit c := mt IsHexDigit.toNat_lt hc
    exact ⟨fun h => absurd (h.imp_right .inl) hlarge, fun h => absurd h.1 hlarge⟩

/-- Numbers are written with small letters. -/
theorem isSmallHexDigit_digitChar {d : Nat} (h : d < 16) : IsSmallHexDigit (digitChar d) := by
  have hall : ∀ d : Fin 16, IsSmallHexDigit (digitChar d) := by decide
  exact hall ⟨d, h⟩

/-! ## Rows -/

theorem digitValue?_lowerChar (base : Nat) (c : Char) :
    digitValue? base (lowerChar c) = digitValue? base c := by
  rw [digitValue?, digitValue?, hexValue?_lowerChar]

/-- **The case of the letters does not matter to the number.** -/
theorem valueOf?_lower (base : Nat) (row : List Char) :
    valueOf? base (lower row) = valueOf? base row := by
  induction row using List.reverseRecOn with
  | nil => rfl
  | append_singleton row c ih =>
    rw [lower, List.map_append, List.map_singleton, valueOf?_concat, valueOf?_concat,
      digitValue?_lowerChar, ← lower, ih]

theorem hexNumber_append (front back : List Char) :
    hexNumber (front ++ back) = hexNumber front * 16 ^ back.length + hexNumber back := by
  unfold hexNumber
  rw [List.reverse_append, List.map_append, Nat.ofDigits_append, List.length_map,
    List.length_reverse, Nat.add_comm, Nat.mul_comm]

theorem hexNumber_singleton (c : Char) : hexNumber [c] = (hexValue? c).getD 0 :=
  Nat.ofDigits_singleton

theorem IsHexRow.of_concat (h : IsHexRow (row ++ [c])) : IsHexRow row ∧ IsHexDigit c := by
  obtain ⟨hrow, hc⟩ := List.forall_mem_append.mp h
  exact ⟨hrow, hc c List.mem_cons_self⟩

theorem getD_hexValue?_lt (c : Char) : (hexValue? c).getD 0 < 16 := by
  cases hvalue : hexValue? c with
  | none => exact Nat.succ_pos 15
  | some d => exact lt_of_hexValue? hvalue

/-- **What is read is written in lower case.** -/
theorem fixedDigits_hexNumber (h : IsHexRow row) :
    fixedDigits 16 row.length (hexNumber row) = lower row := by
  induction row using List.reverseRecOn with
  | nil => rfl
  | append_singleton row c ih =>
    obtain ⟨hrow, hc⟩ := h.of_concat
    have hlt := getD_hexValue?_lt c
    have hfront : (hexNumber row * 16 + (hexValue? c).getD 0) / 16 = hexNumber row := by omega
    have hlast : (hexNumber row * 16 + (hexValue? c).getD 0) % 16 = (hexValue? c).getD 0 := by omega
    rw [List.length_append, List.length_singleton, fixedDigits, hexNumber_append,
      hexNumber_singleton, List.length_singleton, Nat.pow_one, hfront, hlast, ih hrow,
      digitChar_hexValue hc, lower, lower, List.map_append, List.map_singleton]

theorem lower_eq_self (h : ∀ c ∈ row, lowerChar c = c) : lower row = row :=
  (List.map_congr_left h).trans (List.map_id' row)

end PairQuote.Text
