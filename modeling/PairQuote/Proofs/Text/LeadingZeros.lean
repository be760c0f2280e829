import PairQuote.Proofs.Text.HexPairs

/-! # Leading zeros

Zeros in front of a row of digits do not change what it stands for.  Without them a row with small
letters is the shortest one for its number, except that nothing is left of a row of zeros
(`withoutZeros_of_valueOf?`).  So two rows of decimal digits stand for the same number exactly if
they are equal without their leading zeros (`decimalValue_eq_iff`), and a row that is read and
written again has lost them and nothing else.

Decimal digits are among the characters of one byte, and a row consists of them exactly if its
bytes are codes of decimal digits (`all_isDecimalByte_toUtf8_iff`).
-/
namespace PairQuote.Text

variable {base n : Nat} {c : Char} {row row' : List Char}

/-! ## The bytes of decimal digits -/

/-- The code of a decimal digit. -/
def isDecimalByte (b : Nat) : Bool := 0x30 ≤ b && b ≤ 0x39

theorem IsDecimalDigit.toNat_lt (h : IsDecimalDigit c) : c.toNat < 128 :=
  IsHexDigit.toNat_lt (.inl h)

/-- **The bytes of a row are codes of decimal digits exactly if it is a row of them.** -/
theorem all_isDecimalByte_toUtf8_iff (row : List Char) :
    (toUtf8 row).all isDecimalByte = true ↔ IsDecimalRow row := by
  refine all_toUtf8_iff (P := IsDecimalDigit) (by decide +kernel) (fun _ h => h.toNat_lt) ?_ row
  intro b hb
  simp only [isDecimalByte, Bool.and_eq_false_iff, decide_eq_false_iff_not]
  omega

/-! ## The shortest row -/

/-- A row without the zeros in front. -/
def withoutZeros (row : List Char) : List Char := row.dropWhile (· == '0')

theorem withoutZeros_zeros (n : Nat) (row : List Char) :
    withoutZeros (List.replicate n '0' ++ row) = withoutZeros row :=
  List.dropWhile_append_of_pos fun c hc => by simp [List.eq_of_mem_replicate hc]

theorem withoutZeros_concat (row : List Char) (c : Char) :
    withoutZeros (row ++ [c]) =
      if withoutZeros row = [] then withoutZeros [c] else withoutZeros row ++ [c] := by
  rw [withoutZeros, List.dropWhile_append]
  simp only [List.isEmpty_iff]
  rfl

/-- Nothing is taken off a row that does not begin with a zero. -/
theorem withoutZeros_of_head? (h : row.head? ≠ some '0') : withoutZeros row = row := by
  cases row with
  | nil => rfl
  | cons c row =>
    have hfirst : c ≠ '0' := fun hc => h (congrArg some hc)
    exact List.dropWhile_cons_of_neg (by simpa using hfirst)

/-- A digit in lower case is the one that its number is written with, and only `0` stands for
zero. -/
theorem digitChar_of_digitValue? {d : Nat} (h : digitValue? base c = some d)
    (hlower : lowerChar c = c) : digitChar d = c ∧ (d = 0 ↔ c = '0') := by
  have hvalue : hexValue? c = some d := (Option.filter_eq_some_iff.mp h).1
  have hdigit : IsHexDigit c := isSome_hexValue?_iff.mp (by rw [hvalue]; rfl)
  have hchar : digitChar d = c := by
    have hwritten := digitChar_hexValue hdigit
    rwa [hvalue, hlower] at hwritten
  refine ⟨hchar, ?_, ?_⟩
  · rintro rfl
    exact hchar.symm
  · rintro rfl
    exact (Option.some.inj hvalue).symm

theorem digits_concat {d : Nat} (hbase : 2 ≤ base) (hn : n ≠ 0) (hd : d < base) :
    digits base (n * base + d) = digits base n ++ [digitChar d] := by
  have hle : base ≤ n * base + d :=
    Nat.le_add_right_of_le (Nat.le_mul_of_pos_left base (Nat.pos_of_ne_zero hn))
  have hdiv : (n * base + d) / base = n := by
    rw [Nat.add_comm, Nat.add_mul_div_right d n (by omega), Nat.div_eq_of_lt hd, Nat.zero_add]
  have hmod : (n * base + d) % base = d := by
    rw [Nat.add_comm, Nat.add_mul_mod_self_right, Nat.mod_eq_of_lt hd]
  rw [digits, dif_pos ⟨hbase, hle⟩]
  show digits base ((n * base + d) / base) ++ [digitChar ((n * base + d) % base)] = _
  rw [hdiv, hmod]

theorem digits_of_lt {d : Nat} (hd : d < base) : digits base d = [digitChar d] := by
  rw [digits, dif_neg (by omega)]

theorem digits_zero (hbase : 0 < base) : digits base 0 = ['0'] := digits_of_lt hbase

theorem digits_inj {m : Nat} (hlow : 2 ≤ base) (hbase : base ≤ 16)
    (h : digits base m = digits base n) : m = n := by
  have hm := valueOf?_digits hlow hbase m
  rw [h, valueOf?_digits hlow hbase n] at hm
  exact (Option.some.inj hm).symm

/-- **What is left of a row without its leading zeros is the shortest row of its number**, if its
letters are small; nothing is left exactly of zero. -/
theorem withoutZeros_of_valueOf? (hbase : 2 ≤ base) (hlower : ∀ c ∈ row, lowerChar c = c)
    (h : valueOf? base row = some n) :
    (n = 0 ∧ withoutZeros row = []) ∨ (n ≠ 0 ∧ withoutZeros row = digits base n) := by
  induction row using List.reverseRecOn generalizing n with
  | nil => exact .inl ⟨(Option.some.inj h).symm, rfl⟩
  | append_singleton row c ih =>
    obtain ⟨hfront, hlast⟩ := List.forall_mem_append.mp hlower
    obtain ⟨m, hm, hc⟩ := Option.bind_eq_some_iff.mp ((valueOf?_concat base row c).symm.trans h)
    obtain ⟨d, hd, rfl⟩ := Option.map_eq_some_iff.mp hc
    obtain ⟨hchar, hzero⟩ := digitChar_of_digitValue? hd (hlast c List.mem_cons_self)
    have hlt : d < base := lt_of_digitValue? hd
    rw [withoutZeros_concat]
    rcases ih hfront hm with ⟨rfl, hleft⟩ | ⟨hvalue, hleft⟩
    · -- only zeros so far: the digit is one more of them, or the first that is left
      rw [if_pos hleft, Nat.zero_mul, Nat.zero_add]
      by_cases hfirst : c = '0'
      · exact .inl ⟨hzero.mpr hfirst, by rw [hfirst]; rfl⟩
      · refine .inr ⟨fun h => hfirst (hzero.mp h), ?_⟩
        rw [digits_of_lt hlt, hchar]
        exact withoutZeros_of_head? fun h => hfirst (Option.some.inj h)
    · rw [if_neg (by rw [hleft]; exact digits_ne_nil base m), digits_concat hbase hvalue hlt, hchar,
        hleft]
      refine .inr ⟨fun h => hvalue ?_, rfl⟩
      exact (Nat.mul_eq_zero.mp (Nat.add_eq_zero_iff.mp h).1).resolve_right (by omega)

/-! ## Rows of decimal digits -/

theorem IsDecimalDigit.lowerChar_eq (h : IsDecimalDigit c) : lowerChar c = c :=
  (isSmallHexDigit_iff.mp (.inl h)).2

theorem digits_decimalValue (h : IsDecimalRow row) :
    (decimalValue row = 0 ∧ withoutZeros row = []) ∨
      (decimalValue row ≠ 0 ∧ withoutZeros row = digits 10 (decimalValue row)) :=
  withoutZeros_of_valueOf? (by decide) (fun c hc => (h c hc).lowerChar_eq)
    ((valueOf?_ten row).trans (if_pos h))

/-- The shortest row of a number is a row of decimal digits, and stands for it. -/
theorem isDecimalRow_digits (n : Nat) :
    IsDecimalRow (digits 10 n) ∧ decimalValue (digits 10 n) = n := by
  have hread : valueOf? 10 (digits 10 n) = some n := valueOf?_digits (by decide) (by decide) n
  rw [valueOf?_ten] at hread
  split at hread
  next hrow => exact ⟨hrow, Option.some.inj hread⟩
  next => cases hread

/-- **Two rows stand for one number exactly if they are equal without their leading zeros.** -/
theorem decimalValue_eq_iff (h : IsDecimalRow row) (h' : IsDecimalRow row') :
    decimalValue row = decimalValue row' ↔ withoutZeros row = withoutZeros row' := by
  rcases digits_decimalValue h with ⟨hvalue, hleft⟩ | ⟨hvalue, hleft⟩
  · rcases digits_decimalValue h' with ⟨hvalue', hleft'⟩ | ⟨hvalue', hleft'⟩
    · simp only [hvalue, hvalue', hleft, hleft']
    · rw [hvalue, hleft, hleft']
      exact iff_of_false hvalue'.symm (digits_ne_nil 10 _).symm
  · rcases digits_decimalValue h' with ⟨hvalue', hleft'⟩ | ⟨hvalue', hleft'⟩
    · rw [hvalue', hleft, hleft']
      exact iff_of_false hvalue (digits_ne_nil 10 _)
    · rw [hleft, hleft']
      exact ⟨congrArg (digits 10), digits_inj (by decide) (by decide)⟩

/-- **Zeros in front of a row change nothing.** -/
theorem decimalValue_zeros (h : IsDecimalRow row) (n : Nat) :
    IsDecimalRow (List.replicate n '0' ++ row) ∧
      decimalValue (List.replicate n '0' ++ row) = decimalValue row := by
  have hrow : IsDecimalRow (List.replicate n '0' ++ row) :=
    List.forall_mem_append.mpr ⟨fun c hc => List.eq_of_mem_replicate hc ▸ by decide, h⟩
  exact ⟨hrow, (decimalValue_eq_iff hrow h).mpr (withoutZeros_zeros n row)⟩

end PairQuote.Text
