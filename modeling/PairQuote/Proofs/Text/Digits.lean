import Mathlib.Data.List.Induction
import Mathlib.Data.Nat.Digits.Defs
import PairQuote.Text.Digits

/-! # Reading rows of digits

A row of digits is read by a fold from the left, which stops at the first character that is
no digit of the base.  Two facts say what it reads: it succeeds exactly on rows of digits
(`isSome_valueOf?_iff`), and what it returns is the number whose digits, least significant
first, are the row from behind (`valueOf?_eq_ofDigits`).

For the two bases in use the digits are named by their characters: `IsDecimalDigit` and
`IsHexDigit`.  In the other direction the shortest row of a number, and with it the decimal
text, is that of the standard library (`decimal_eq_toString`), and rows that are written are
read back (`valueOf?_digits`, `valueOf?_fixedDigits`).
-/
namespace PairQuote.Text

variable {base n : Nat} {c : Char} {row : List Char}

/-! ## Digits -/

/-- One of the ten decimal digits. -/
def IsDecimalDigit (c : Char) : Prop := '0' ≤ c ∧ c ≤ '9'

/-- A digit of base sixteen, in either case. -/
def IsHexDigit (c : Char) : Prop :=
  ('0' ≤ c ∧ c ≤ '9') ∨ ('a' ≤ c ∧ c ≤ 'f') ∨ ('A' ≤ c ∧ c ≤ 'F')

instance (c : Char) : Decidable (IsDecimalDigit c) := inferInstanceAs (Decidable (_ ∧ _))
instance (c : Char) : Decidable (IsHexDigit c) := inferInstanceAs (Decidable (_ ∨ _ ∨ _))

/-- A row of decimal digits. -/
def IsDecimalRow (row : List Char) : Prop := ∀ c ∈ row, IsDecimalDigit c

/-- A row of digits of base sixteen. -/
def IsHexRow (row : List Char) : Prop := ∀ c ∈ row, IsHexDigit c

instance (row : List Char) : Decidable (IsDecimalRow row) :=
  List.decidableBAll IsDecimalDigit row
instance (row : List Char) : Decidable (IsHexRow row) := List.decidableBAll IsHexDigit row

theorem charLe_iff (a b : Char) : a ≤ b ↔ a.toNat ≤ b.toNat := Iff.rfl

theorem isSome_hexValue?_iff : (hexValue? c).isSome ↔ IsHexDigit c := by
  unfold hexValue? IsHexDigit
  by_cases hdigit : '0' ≤ c ∧ c ≤ '9'
  · simp [hdigit]
  · by_cases hlower : 'a' ≤ c ∧ c ≤ 'f'
    · simp [hdigit, hlower]
    · by_cases hupper : 'A' ≤ c ∧ c ≤ 'F'
      · simp [hdigit, hlower, hupper]
      · simp [hdigit, hlower, hupper]

/-- A digit stands for a number below sixteen. -/
theorem lt_of_hexValue? {d : Nat} (h : hexValue? c = some d) : d < 16 := by
  have h0 : '0'.toNat = 48 := rfl
  have h9 : '9'.toNat = 57 := rfl
  have ha : 'a'.toNat = 97 := rfl
  have hf : 'f'.toNat = 102 := rfl
  have hA : 'A'.toNat = 65 := rfl
  have hF : 'F'.toNat = 70 := rfl
  unfold hexValue? at h
  simp only [charLe_iff] at h
  split at h
  · obtain rfl := Option.some.inj h
    omega
  · split at h
    · obtain rfl := Option.some.inj h
      omega
    · split at h
      · obtain rfl := Option.some.inj h
        omega
      · cases h

/-- A digit of a base stands for a number below the base. -/
theorem lt_of_digitValue? {d : Nat} (h : digitValue? base c = some d) : d < base := by
  simpa using (Option.filter_eq_some_iff.mp h).2

/-- All digits are digits of base sixteen. -/
theorem digitValue?_sixteen (c : Char) : digitValue? 16 c = hexValue? c := by
  unfold digitValue?
  cases h : hexValue? c with
  | none => rfl
  | some d => exact Option.filter_some_pos (decide_eq_true (lt_of_hexValue? h))

theorem isSome_digitValue?_sixteen : (digitValue? 16 c).isSome ↔ IsHexDigit c := by
  rw [digitValue?_sixteen, isSome_hexValue?_iff]

/-- The digits of base ten count from `0`. -/
theorem digitValue?_ten (c : Char) :
    digitValue? 10 c = if IsDecimalDigit c then some (c.toNat - '0'.toNat) else none := by
  have h0 : '0'.toNat = 48 := rfl
  have h9 : '9'.toNat = 57 := rfl
  unfold digitValue?
  by_cases hdigit : IsDecimalDigit c
  · have hvalue : hexValue? c = some (c.toNat - '0'.toNat) := if_pos hdigit
    have hle := hdigit.2
    rw [charLe_iff] at hle
    rw [hvalue, if_pos hdigit]
    exact Option.filter_some_pos (decide_eq_true (by omega))
  · have hletter : ¬('0' ≤ c ∧ c ≤ '9') := hdigit
    rw [if_neg hdigit, hexValue?, if_neg hletter]
    -- the letters count from ten, so none of them is a digit here
    split
    · exact Option.filter_some_neg (by simp)
    · split
      · exact Option.filter_some_neg (by simp)
      · rfl

theorem isSome_digitValue?_ten : (digitValue? 10 c).isSome ↔ IsDecimalDigit c := by
  rw [digitValue?_ten]
  split <;> simp_all

/-! ## Rows -/

/-- A row is read exactly if it consists of digits. -/
theorem isSome_valueOf?_iff (base : Nat) (row : List Char) :
    (valueOf? base row).isSome ↔ ∀ c ∈ row, (digitValue? base c).isSome := by
  induction row using List.reverseRecOn with
  | nil => simp
  | append_singleton row c ih =>
    rw [valueOf?_concat, List.forall_mem_append, List.forall_mem_singleton, ← ih]
    cases valueOf? base row with
    | none => simp
    | some n => simp

/-- What is read is the number with these digits. -/
theorem valueOf?_eq_ofDigits (h : (valueOf? base row).isSome) :
    valueOf? base row =
      some (Nat.ofDigits base (row.reverse.map fun c => (digitValue? base c).getD 0)) := by
  induction row using List.reverseRecOn with
  | nil => rfl
  | append_singleton row c ih =>
    rw [valueOf?_concat] at h ⊢
    obtain ⟨n, hn⟩ : ∃ n, valueOf? base row = some n := by
      cases hrow : valueOf? base row with
      | none => simp [hrow] at h
      | some n => exact ⟨n, rfl⟩
    obtain ⟨d, hd⟩ : ∃ d, digitValue? base c = some d := by
      cases hc : digitValue? base c with
      | none => simp [hn, hc] at h
      | some d => exact ⟨d, rfl⟩
    have hvalue := ih (by rw [hn]; rfl)
    rw [hn] at hvalue
    rw [hn, List.reverse_append, List.reverse_singleton, List.singleton_append, List.map_cons,
      Nat.ofDigits_cons, ← Option.some.inj hvalue, hd]
    simp only [Option.bind_some, Option.map_some, Option.getD_some]
    rw [Nat.mul_comm, Nat.add_comm]

/-- A number is below the power of the base that has as many digits. -/
theorem lt_of_valueOf? (hbase : 1 < base) (h : valueOf? base row = some n) :
    n < base ^ row.length := by
  have hsome : (valueOf? base row).isSome := by rw [h]; rfl
  have hvalue := valueOf?_eq_ofDigits hsome
  obtain rfl := Option.some.inj (h.symm.trans hvalue)
  rw [← List.length_reverse, ← List.length_map]
  refine Nat.ofDigits_lt_base_pow_length hbase ?_
  intro d hd
  obtain ⟨c, -, rfl⟩ := List.mem_map.mp hd
  cases hc : digitValue? base c with
  | none => exact Nat.lt_of_lt_of_le Nat.zero_lt_one hbase.le
  | some d => exact lt_of_digitValue? hc

/-! ## Rows of decimal digits -/

/-- The number that a row of decimal digits stands for. -/
def decimalValue (row : List Char) : Nat :=
  Nat.ofDigits 10 (row.reverse.map fun c => c.toNat - '0'.toNat)

/-- In base ten exactly the rows of decimal digits are read, for what they stand for. -/
theorem valueOf?_ten (row : List Char) :
    valueOf? 10 row = if IsDecimalRow row then some (decimalValue row) else none := by
  by_cases hrow : IsDecimalRow row
  · have hsome : (valueOf? 10 row).isSome :=
      (isSome_valueOf?_iff 10 row).mpr fun c hc => isSome_digitValue?_ten.mpr (hrow c hc)
    rw [if_pos hrow, valueOf?_eq_ofDigits hsome, decimalValue]
    refine congrArg (fun digits => some (Nat.ofDigits 10 digits)) (List.map_congr_left ?_)
    intro c hc
    rw [digitValue?_ten, if_pos (hrow c (List.mem_reverse.mp hc)), Option.getD_some]
  · rw [if_neg hrow]
    refine Option.not_isSome_iff_eq_none.mp fun hsome => hrow fun c hc => ?_
    exact isSome_digitValue?_ten.mp ((isSome_valueOf?_iff 10 row).mp hsome c hc)

/-! ## Rows of digits of base sixteen -/

/-- The number that a row of digits of base sixteen stands for. -/
def hexNumber (row : List Char) : Nat :=
  Nat.ofDigits 16 (row.reverse.map fun c => (hexValue? c).getD 0)

theorem isSome_valueOf?_sixteen_iff :
    (valueOf? 16 row).isSome ↔ IsHexRow row := by
  rw [isSome_valueOf?_iff]
  exact forall₂_congr fun c _ => isSome_digitValue?_sixteen

/-- In base sixteen exactly the rows of its digits are read, for what they stand for. -/
theorem valueOf?_sixteen (row : List Char) :
    valueOf? 16 row = if IsHexRow row then some (hexNumber row) else none := by
  by_cases hrow : IsHexRow row
  · rw [if_pos hrow, valueOf?_eq_ofDigits (isSome_valueOf?_sixteen_iff.mpr hrow), hexNumber]
    simp only [digitValue?_sixteen]
  · rw [if_neg hrow]
    exact Option.not_isSome_iff_eq_none.mp (mt isSome_valueOf?_sixteen_iff.mp hrow)

theorem valueOf?_sixteen_eq_some_iff :
    valueOf? 16 row = some n ↔ IsHexRow row ∧ hexNumber row = n := by
  rw [valueOf?_sixteen, Option.ite_none_right_eq_some, Option.some_inj]

theorem hexNumber_lt (h : IsHexRow row) : hexNumber row < 16 ^ row.length :=
  lt_of_valueOf? (by decide) ((valueOf?_sixteen row).trans (if_pos h))

theorem hexNumber_concat (row : List Char) (c : Char) :
    hexNumber (row ++ [c]) = (hexValue? c).getD 0 + 16 * hexNumber row := by
  rw [hexNumber, List.reverse_append, List.reverse_singleton, List.singleton_append, List.map_cons,
    Nat.ofDigits_cons, hexNumber]

/-- Without its last digit a number is divided by the base. -/
theorem hexNumber_dropLast (row : List Char) : hexNumber row.dropLast = hexNumber row / 16 := by
  rcases List.eq_nil_or_concat row with rfl | ⟨front, c, rfl⟩
  · rfl
  · have hdigit : (hexValue? c).getD 0 < 16 := by
      cases hc : hexValue? c with
      | none => exact Nat.succ_pos 15
      | some d => exact lt_of_hexValue? hc
    rw [List.concat_eq_append, List.dropLast_concat, hexNumber_concat]
    omega

/-! ## Shortest rows -/

theorem digitChar_eq {d : Nat} (h : d < 16) : digitChar d = Nat.digitChar d := by
  have hall : ∀ d : Fin 16, digitChar d = Nat.digitChar d := by decide
  exact hall ⟨d, h⟩

/-- The shortest row of a number is that of the standard library. -/
theorem digits_eq_toDigits (hbase : 2 ≤ base) (hle : base ≤ 16) (n : Nat) :
    digits base n = Nat.toDigits base n := by
  induction n using digits.induct base with
  | case1 n hn hlt ih =>
    have hlast : n % base < 16 :=
      Nat.lt_of_lt_of_le (Nat.mod_lt n (Nat.lt_of_lt_of_le Nat.zero_lt_two hbase)) hle
    rw [digits, dif_pos hn, Nat.toDigits_of_base_le hbase hn.2, ih, digitChar_eq hlast]
  | case2 n hn =>
    have hlt : n < base := Nat.lt_of_not_le fun h => hn ⟨hbase, h⟩
    rw [digits, dif_neg hn, Nat.toDigits_of_lt_base hlt,
      digitChar_eq (Nat.lt_of_lt_of_le hlt hle)]

/-- The plain decimal text of a number is the one that the standard library prints. -/
theorem decimal_eq_toString (n : Nat) : decimal n = toString n :=
  congrArg String.ofList (digits_eq_toDigits (by decide) (by decide) n)

theorem digits_ne_nil (base n : Nat) : digits base n ≠ [] := by
  rw [digits]
  split
  · exact List.append_ne_nil_of_right_ne_nil _ (List.cons_ne_nil _ _)
  · exact List.cons_ne_nil _ _

/-- What a number is written with are digits of the base. -/
theorem exists_digit_of_mem_digits (hbase : 2 ≤ base) (h : c ∈ digits base n) :
    ∃ d, d < base ∧ digitChar d = c := by
  induction n using digits.induct base with
  | case1 n hn hlt ih =>
    rw [digits, dif_pos hn] at h
    rcases List.mem_append.mp h with h | h
    · exact ih h
    · exact ⟨n % base, Nat.mod_lt n (by omega), (List.mem_singleton.mp h).symm⟩
  | case2 n hn =>
    rw [digits, dif_neg hn] at h
    exact ⟨n, by omega, (List.mem_singleton.mp h).symm⟩

theorem exists_digit_of_mem_fixedDigits {width : Nat} (hbase : 0 < base)
    (h : c ∈ fixedDigits base width n) : ∃ d, d < base ∧ digitChar d = c := by
  induction width generalizing n with
  | zero => cases h
  | succ width ih =>
    rcases List.mem_append.mp h with h | h
    · exact ih h
    · exact ⟨n % base, Nat.mod_lt n hbase, (List.mem_singleton.mp h).symm⟩

/-- Only zero is written with a zero in front. -/
theorem head?_digits_ne_zero (hlow : 2 ≤ base) (hle : base ≤ 16) (hn : n ≠ 0) :
    (digits base n).head? ≠ some '0' := by
  induction n using digits.induct base with
  | case1 n hbase hlt ih =>
    have hfront := ih (Nat.ne_of_gt (Nat.div_pos hbase.2 (by omega)))
    rw [digits, dif_pos hbase]
    cases hdigits : digits base (n / base) with
    | nil => exact absurd hdigits (digits_ne_nil base (n / base))
    | cons d row =>
      rw [hdigits] at hfront
      exact hfront
  | case2 n hbase =>
    have hall : ∀ d : Fin 16, (d : Nat) ≠ 0 → digitChar d ≠ '0' := by decide
    rw [digits, dif_neg hbase]
    intro h
    exact hall ⟨n, by omega⟩ hn (Option.some.inj h)

/-- A number has at most as many digits as the power of the base that it is below. -/
theorem length_digits_le (hbase : 2 ≤ base) {width : Nat} (hwidth : 0 < width)
    (hn : n < base ^ width) : (digits base n).length ≤ width := by
  induction n using digits.induct base generalizing width with
  | case1 n hle hlt ih =>
    obtain ⟨width, rfl⟩ : ∃ w, width = w + 1 := ⟨width - 1, by omega⟩
    have hmore : width ≠ 0 := by
      rintro rfl
      rw [Nat.zero_add, Nat.pow_one] at hn
      omega
    have hfront : n / base < base ^ width := by
      rw [Nat.div_lt_iff_lt_mul (by omega), ← Nat.pow_succ]
      exact hn
    have hlength := ih (Nat.pos_of_ne_zero hmore) hfront
    rw [digits, dif_pos hle, List.length_append, List.length_singleton]
    omega
  | case2 n hsmall =>
    rw [digits, dif_neg hsmall, List.length_singleton]
    exact hwidth

/-! ## What is written is read back -/

/-- A digit is read for the number it is written for. -/
theorem digitValue?_digitChar {d : Nat} (hd : d < base) (hbase : base ≤ 16) :
    digitValue? base (digitChar d) = some d := by
  have hall : ∀ d : Fin 16, hexValue? (digitChar d) = some (d : Nat) := by decide
  have hvalue : hexValue? (digitChar d) = some d := hall ⟨d, Nat.lt_of_lt_of_le hd hbase⟩
  unfold digitValue?
  rw [hvalue]
  exact Option.filter_some_pos (decide_eq_true hd)

/-- **The shortest row of a number is read as the number.** -/
theorem valueOf?_digits (hlow : 2 ≤ base) (hbase : base ≤ 16) (n : Nat) :
    valueOf? base (digits base n) = some n := by
  induction n using digits.induct base with
  | case1 n hn hlt ih =>
    have hlast : n % base < base := Nat.mod_lt n (by omega)
    rw [digits, dif_pos hn, valueOf?_concat, ih, digitValue?_digitChar hlast hbase]
    show some (n / base * base + n % base) = some n
    rw [Nat.div_add_mod']
  | case2 n hn =>
    have hlt : n < base := by omega
    rw [digits, dif_neg hn, ← List.nil_append [digitChar n], valueOf?_concat, valueOf?_nil,
      digitValue?_digitChar hlt hbase]
    show some (0 * base + n) = some n
    rw [Nat.zero_mul, Nat.zero_add]

/-- A row of given length is read as the number that its digits can hold. -/
theorem valueOf?_fixedDigits (hlow : 2 ≤ base) (hbase : base ≤ 16) (width n : Nat) :
    valueOf? base (fixedDigits base width n) = some (n % base ^ width) := by
  induction width generalizing n with
  | zero =>
    show some 0 = some (n % base ^ 0)
    rw [Nat.pow_zero, Nat.mod_one]
  | succ width ih =>
    have hlast : n % base < base := Nat.mod_lt n (by omega)
    rw [fixedDigits, valueOf?_concat, ih, digitValue?_digitChar hlast hbase]
    show some (n / base % base ^ width * base + n % base) = some (n % base ^ (width + 1))
    rw [Nat.pow_succ', Nat.mod_mul, Nat.mul_comm, Nat.add_comm]

theorem valueOf?_fixedDigits_of_lt (hlow : 2 ≤ base) (hbase : base ≤ 16) {width n : Nat}
    (hn : n < base ^ width) : valueOf? base (fixedDigits base width n) = some n := by
  rw [valueOf?_fixedDigits hlow hbase, Nat.mod_eq_of_lt hn]

end PairQuote.Text
