import Mathlib.Algebra.Group.Nat.Defs
import PairQuote.Proofs.Text.Letters
import PairQuote.Rpc.Quantity

/-! # What numbers and words are read from

A quantity is read from a row of at most so many places, and at least one, perhaps behind `0x`
(`IsQuantity`).  A place is a digit of base sixteen or a blank.  The number is that of the
digits, except that the last digit is lost if the number of blanks is odd.

A word is read from sixty-four digits, or from fewer with zeros in front, among which markers
may stand (`IsData`).  Another even number of digits stops the reading (`IsMisfit`): in the
first place a greater one (`isMisfit_iff_of_digits`), and then that of the few texts which leave a
marker in front of the digits, where this is dropped (`ReadBy`).  Nothing else is read, or stops.

The widths are such that nothing is lost: sixteen digits are below `2 ^ 64` and sixty-four
below `2 ^ 256`.  A number of sixty-four digits need not fit sixty-four bits, though.

What is written as a quantity or as the text of a word is read back.
-/
namespace PairQuote.Rpc

open Text (IsHexDigit IsHexRow hexNumber)

variable {text : String} {row : List Char} {n width : Nat}

/-! ## Quantities -/

/-- A place of a quantity. -/
def IsPlace (c : Char) : Prop := isSkipped c = true ∨ IsHexDigit c

/-- The digits of a row of places that count. -/
def countedDigits (row : List Char) : List Char :=
  if row.countP isSkipped % 2 = 1 then (row.filter (!isSkipped ·)).dropLast
  else row.filter (!isSkipped ·)

/-- The text of a quantity of at most `width` places. -/
def IsQuantity (width : Nat) (text : String) (n : Nat) : Prop :=
  ∃ row : List Char, (text.toList = row ∨ text.toList = '0' :: 'x' :: row) ∧
    (row ≠ [] ∧ row.length ≤ width) ∧ (∀ c ∈ row, IsPlace c) ∧ n = hexNumber (countedDigits row)

/-- A row consists of places if all that is not skipped are digits. -/
theorem isHexRow_filter_iff :
    IsHexRow (row.filter (!isSkipped ·)) ↔ ∀ c ∈ row, IsPlace c := by
  constructor
  · intro h c hc
    cases hskipped : isSkipped c with
    | true => exact .inl hskipped
    | false => exact .inr (h c (List.mem_filter.mpr ⟨hc, by simp [hskipped]⟩))
  · intro h c hc
    obtain ⟨hmem, hkept⟩ := List.mem_filter.mp hc
    rcases h c hmem with hskipped | hdigit
    · simp [hskipped] at hkept
    · exact hdigit

theorem countedDigits_sublist (row : List Char) : (countedDigits row).Sublist row := by
  unfold countedDigits
  split
  · exact (List.dropLast_sublist _).trans List.filter_sublist
  · exact List.filter_sublist

theorem isHexRow_countedDigits (h : ∀ c ∈ row, IsPlace c) : IsHexRow (countedDigits row) := by
  have hdigits := isHexRow_filter_iff.mpr h
  unfold countedDigits
  split
  · exact fun c hc => hdigits c ((List.dropLast_sublist _).subset hc)
  · exact hdigits

theorem hexNumber_countedDigits (row : List Char) : hexNumber (countedDigits row) =
    if row.countP isSkipped % 2 = 1 then hexNumber (row.filter (!isSkipped ·)) / 16
    else hexNumber (row.filter (!isSkipped ·)) := by
  unfold countedDigits
  split
  · exact Text.hexNumber_dropLast _
  · rfl

/-- A quantity is a number of at most so many digits. -/
theorem IsQuantity.lt (h : IsQuantity width text n) : n < 16 ^ width := by
  obtain ⟨row, -, ⟨-, hlength⟩, hplaces, rfl⟩ := h
  have hfew : (countedDigits row).length ≤ width :=
    (countedDigits_sublist row).length_le.trans hlength
  exact Nat.lt_of_lt_of_le (Text.hexNumber_lt (isHexRow_countedDigits hplaces))
    (Nat.pow_le_pow_right (by decide) hfew)

/-- **Quantities are read from their texts, and from nothing else.** -/
theorem ofQuantity?_eq_some_iff :
    ofQuantity? width text = some n ↔ IsQuantity width text n := by
  have hread : ∀ row : List Char,
      (if row.isEmpty ∨ width < row.length then none
        else (Text.valueOf? 16 (row.filter (!isSkipped ·))).map fun n =>
          if row.countP isSkipped % 2 = 1 then n / 16 else n) = some n ↔
        (row ≠ [] ∧ row.length ≤ width) ∧ (∀ c ∈ row, IsPlace c) ∧
          n = hexNumber (countedDigits row) := by
    intro row
    rw [Text.valueOf?_sixteen, hexNumber_countedDigits, ← isHexRow_filter_iff]
    by_cases hshape : row.isEmpty ∨ width < row.length
    · rw [if_pos hshape]
      refine ⟨nofun, fun h => ?_⟩
      rcases hshape with hempty | hlong
      · exact absurd (List.isEmpty_iff.mp hempty) h.1.1
      · exact absurd h.1.2 (Nat.not_le.mpr hlong)
    · obtain ⟨hsome, hlength⟩ := not_or.mp hshape
      have hshort : row ≠ [] ∧ row.length ≤ width :=
        ⟨fun h => hsome (List.isEmpty_iff.mpr h), Nat.le_of_not_lt hlength⟩
      rw [if_neg hshape, Option.map_eq_some_iff]
      simp only [Option.ite_none_right_eq_some, Option.some_inj]
      constructor
      · rintro ⟨_, ⟨hdigits, rfl⟩, rfl⟩
        exact ⟨hshort, hdigits, rfl⟩
      · rintro ⟨-, hdigits, rfl⟩
        exact ⟨_, ⟨hdigits, rfl⟩, rfl⟩
  unfold ofQuantity? IsQuantity
  dsimp only
  rw [hread]
  split
  · next row hrow =>
    rw [hrow]
    constructor
    · exact fun h => ⟨row, .inr rfl, h⟩
    · rintro ⟨row', rfl | hrow', h⟩
      · -- the marker is neither a digit nor a blank
        have hmarker : IsPlace 'x' := h.2.1 'x' (by simp)
        exact absurd hmarker (by unfold IsPlace; decide)
      · cases hrow'
        exact h
  · next hmarker =>
    constructor
    · exact fun h => ⟨_, .inl rfl, h⟩
    · rintro ⟨row', rfl | hrow', h⟩
      · exact h
      · exact absurd hrow' (hmarker row')

theorem chainIdOf?_eq_some_iff : chainIdOf? text = some n ↔ IsQuantity 64 text n :=
  ofQuantity?_eq_some_iff

/-- The number of a block always fits. -/
theorem blockOf?_eq_some_iff {block : UInt64} :
    blockOf? text = some block ↔ IsQuantity 16 text block.toNat := by
  unfold blockOf?
  rw [Option.map_eq_some_iff]
  constructor
  · rintro ⟨n, hn, rfl⟩
    -- Sixteen digits are below `2 ^ 64`, so the narrowing keeps the number.
    have hquantity := ofQuantity?_eq_some_iff.mp hn
    have hlt : n < UInt64.size := hquantity.lt
    rwa [UInt64.toNat_ofNat_of_lt' hlt]
  · intro h
    exact ⟨block.toNat, ofQuantity?_eq_some_iff.mpr h, UInt64.ofNat_toNat⟩

/-! ## Words -/

/-- A row of digits, and the same row with markers anywhere in it. -/
inductive Interspersed : (marked digits : List Char) → Prop
  | nil : Interspersed [] []
  | marker {marked digits : List Char} (rest : Interspersed marked digits) :
    Interspersed ('0' :: 'x' :: marked) digits
  | digit {c : Char} {marked digits : List Char} (hc : IsHexDigit c)
    (rest : Interspersed marked digits) : Interspersed (c :: marked) (c :: digits)

/-- The row that a text is read by. -/
inductive ReadBy (front : FrontMarker) (text : String) : List Char → Prop
  /-- Digits, with zeros put in front of them. -/
  | digits {digits : List Char} (h : Interspersed text.toList digits) :
    ReadBy front text (padded digits)
  /-- A marker is left in front of the digits. -/
  | behindMarker {digits : List Char} (hfront : front = .dropped)
    (h : withoutMarkers text.toList = '0' :: 'x' :: digits) (hlong : 62 ≤ digits.length)
    (hdigits : IsHexRow digits) : ReadBy front text digits
  /-- Half a marker is left, and the one zero that is put in front makes it whole. -/
  | behindHalf {digits : List Char} (hfront : front = .dropped)
    (h : withoutMarkers text.toList = 'x' :: digits) (hlength : digits.length = 62)
    (hdigits : IsHexRow digits) : ReadBy front text digits

/-- The text of a word. -/
def IsData (front : FrontMarker) (text : String) (w : Word) : Prop :=
  ∃ row, ReadBy front text row ∧ row.length = 64 ∧ w.bits.toNat = hexNumber row

/-- The text of bytes that are fewer or more than those of a word. -/
def IsMisfit (front : FrontMarker) (text : String) : Prop :=
  ∃ row, ReadBy front text row ∧ row.length ≠ 64 ∧ row.length % 2 = 0

/-- What is no marker stays. -/
theorem withoutMarkers_cons {c : Char} (h : c = '0' → row.head? ≠ some 'x') :
    withoutMarkers (c :: row) = c :: withoutMarkers row := by
  rw [withoutMarkers]
  rintro rest hc rfl
  exact h hc rfl

theorem withoutMarkers_of_not_mem (h : 'x' ∉ row) : withoutMarkers row = row := by
  induction row with
  | nil => rfl
  | cons c row ih =>
    obtain ⟨-, hrow⟩ := not_or.mp (mt List.mem_cons.mpr h)
    have hhead : row.head? ≠ some 'x' := fun hx => hrow (List.mem_of_head? hx)
    rw [withoutMarkers_cons fun _ => hhead, ih hrow]

/-- A row of digits begins with no `x`, with markers in it or without. -/
theorem Interspersed.head?_ne {marked digits : List Char} (h : Interspersed marked digits) :
    marked.head? ≠ some 'x' := by
  cases h with
  | nil => exact nofun
  | marker rest => exact fun hx => absurd (Option.some.inj hx) (by decide)
  | digit hc rest =>
    intro hx
    obtain rfl := Option.some.inj hx
    exact absurd hc (by decide)

/-- **Digits with markers among them** are what digits are left of. -/
theorem interspersed_iff {marked digits : List Char} :
    Interspersed marked digits ↔ withoutMarkers marked = digits ∧ IsHexRow digits := by
  constructor
  · intro h
    induction h with
    | nil => exact ⟨rfl, nofun⟩
    | marker rest ih => exact ih
    | digit hc rest ih =>
      obtain ⟨hdigits, hrow⟩ := ih
      rw [withoutMarkers_cons fun _ => rest.head?_ne, hdigits]
      exact ⟨rfl, List.forall_mem_cons.mpr ⟨hc, hrow⟩⟩
  · rintro ⟨rfl, hrow⟩
    fun_induction withoutMarkers marked with
    | case1 rest ih => exact .marker (ih hrow)
    | case2 c rest _ ih =>
      obtain ⟨hc, hrest⟩ := List.forall_mem_cons.mp hrow
      exact .digit hc (ih hrest)
    | case3 => exact .nil

theorem toNat_ofNat_bits (h : n < 2 ^ 256) : (Word.ofNat n).bits.toNat = n :=
  (BitVec.toNat_ofNat n 256).trans (Nat.mod_eq_of_lt h)

theorem ofNat_toNat_bits (w : Word) : Word.ofNat w.bits.toNat = w :=
  congrArg Word.mk ((BitVec.ofNat_toNat 256 w.bits).trans (BitVec.setWidth_eq w.bits))

/-! ### Zeros and a marker in front -/

theorem length_padded (row : List Char) : (padded row).length = max 64 row.length := by
  rw [padded, List.length_append, List.length_replicate]
  omega

theorem padded_of_long (h : 64 ≤ row.length) : padded row = row := by
  rw [padded, Nat.sub_eq_zero_of_le h]
  rfl

theorem isHexRow_padded_iff : IsHexRow (padded row) ↔ IsHexRow row := by
  constructor
  · exact fun h c hc => h c (List.mem_append_right _ hc)
  · intro h c hc
    rcases List.mem_append.mp hc with hzero | hc
    · obtain rfl := List.eq_of_mem_replicate hzero
      decide
    · exact h c hc

/-- Zeros in front do not count. -/
theorem hexNumber_padded (row : List Char) : hexNumber (padded row) = hexNumber row := by
  have hzeros : ∀ k, hexNumber (List.replicate k '0') = 0 := by
    intro k
    induction k with
    | zero => rfl
    | succ k ih => rw [List.replicate_succ', Text.hexNumber_concat, ih]; rfl
  rw [padded, Text.hexNumber_append, hzeros, Nat.zero_mul, Nat.zero_add]

/-- There is no marker in front of digits. -/
theorem FrontMarker.strip_of_hexRow (front : FrontMarker) (h : IsHexRow row) :
    front.strip row = row := by
  unfold strip
  split
  · exact absurd (h 'x' (by simp)) (by decide)
  · rfl

/-- What is stripped is a marker, and only where it is dropped. -/
theorem FrontMarker.strip_cases (front : FrontMarker) (row : List Char) :
    front.strip row = row ∨ front = .dropped ∧ row = '0' :: 'x' :: front.strip row := by
  unfold strip
  split
  · exact .inr ⟨rfl, rfl⟩
  · exact .inl rfl

variable {front : FrontMarker}

/-- A marker in front of the padded row was there before, or half of it. -/
theorem readBy_of_marker (hfront : front = .dropped) {digits : List Char}
    (h : padded (withoutMarkers text.toList) = '0' :: 'x' :: digits) (hdigits : IsHexRow digits) :
    ReadBy front text digits := by
  generalize hleft : withoutMarkers text.toList = left at h
  have hlength := length_padded left
  rw [h, List.length_cons, List.length_cons] at hlength
  unfold padded at h
  cases hmissing : 64 - left.length with
  | zero =>
    rw [hmissing] at h
    obtain rfl : left = '0' :: 'x' :: digits := h
    exact .behindMarker hfront hleft (by omega) hdigits
  | succ k =>
    rw [hmissing] at h
    cases k with
    | zero =>
      obtain rfl : left = 'x' :: digits := List.tail_eq_of_cons_eq h
      exact .behindHalf hfront hleft (by omega) hdigits
    | succ k =>
      -- Two zeros in front leave no room for the `x`.
      have hsecond : '0' = 'x' := List.head_eq_of_cons_eq (List.tail_eq_of_cons_eq h)
      exact absurd hsecond (by decide)

theorem readBy_iff : ReadBy front text row ↔
    front.strip (padded (withoutMarkers text.toList)) = row ∧ IsHexRow row := by
  constructor
  · intro h
    cases h with
    | digits h =>
      obtain ⟨rfl, hrow⟩ := interspersed_iff.mp h
      have hpadded := isHexRow_padded_iff.mpr hrow
      exact ⟨front.strip_of_hexRow hpadded, hpadded⟩
    | behindMarker hfront h hlong hrow =>
      have hwhole : padded ('0' :: 'x' :: row) = '0' :: 'x' :: row :=
        padded_of_long (Nat.add_le_add_right hlong 2)
      rw [hfront, h, hwhole]
      exact ⟨rfl, hrow⟩
    | behindHalf hfront h hlength hrow =>
      have hwhole : padded ('x' :: row) = '0' :: 'x' :: row := by simp [padded, hlength]
      rw [hfront, h, hwhole]
      exact ⟨rfl, hrow⟩
  · rintro ⟨rfl, hrow⟩
    rcases front.strip_cases (padded (withoutMarkers text.toList)) with hplain | ⟨hfront, hmarker⟩
    · rw [hplain] at hrow ⊢
      exact .digits (interspersed_iff.mpr ⟨rfl, isHexRow_padded_iff.mp hrow⟩)
    · exact readBy_of_marker hfront hmarker hrow

/-! ### What is read -/

/-- A text is read by one row. -/
theorem ReadBy.unique {row' : List Char} (h : ReadBy front text row)
    (h' : ReadBy front text row') : row = row' :=
  (readBy_iff.mp h).1.symm.trans (readBy_iff.mp h').1

/-- What is made of a text: nothing if no row of digits comes of it. -/
theorem wordOf_cases (front : FrontMarker) (text : String) :
    ((∀ row, ¬ReadBy front text row) ∧ wordOf front text = .returned none) ∨
    ∃ row, ReadBy front text row ∧
      wordOf front text = if row.length % 2 = 1 then .returned none
        else if row.length = 64 then .returned (some (Word.ofNat (hexNumber row)))
        else .stopped := by
  unfold wordOf
  dsimp only
  rw [Text.valueOf?_sixteen]
  by_cases hrow : IsHexRow (front.strip (padded (withoutMarkers text.toList)))
  · rw [if_pos hrow]
    exact .inr ⟨_, readBy_iff.mpr ⟨rfl, hrow⟩, rfl⟩
  · rw [if_neg hrow]
    refine .inl ⟨fun row h => ?_, rfl⟩
    obtain ⟨rfl, hdigits⟩ := readBy_iff.mp h
    exact hrow hdigits

/-- **Words are read from their texts, and from nothing else.** -/
theorem wordOf_eq_word_iff {w : Word} :
    wordOf front text = .returned (some w) ↔ IsData front text w := by
  rcases wordOf_cases front text with ⟨hnone, hread⟩ | ⟨row, hrow, hread⟩
  · rw [hread]
    exact ⟨nofun, fun ⟨row, h, _⟩ => absurd h (hnone row)⟩
  · rw [hread]
    constructor
    · intro h
      split at h
      · cases h
      · split at h
        · next hlength =>
          obtain rfl := Option.some.inj (Ending.returned.inj h)
          have hlt : hexNumber row < 16 ^ 64 := hlength ▸ Text.hexNumber_lt (readBy_iff.mp hrow).2
          exact ⟨row, hrow, hlength, toNat_ofNat_bits hlt⟩
        · cases h
    · rintro ⟨row', hrow', hlength, hvalue⟩
      obtain rfl := hrow.unique hrow'
      rw [if_neg (by omega), if_pos hlength, ← hvalue, ofNat_toNat_bits]

/-- **Reading stops at bytes that are not thirty-two**, and at nothing else. -/
theorem wordOf_eq_stopped_iff : wordOf front text = .stopped ↔ IsMisfit front text := by
  rcases wordOf_cases front text with ⟨hnone, hread⟩ | ⟨row, hrow, hread⟩
  · rw [hread]
    exact ⟨nofun, fun ⟨row, h, _⟩ => absurd h (hnone row)⟩
  · rw [hread]
    constructor
    · intro h
      split at h
      · cases h
      · next heven =>
        split at h
        · cases h
        · next hlength => exact ⟨row, hrow, hlength, by omega⟩
    · rintro ⟨row', hrow', hlength, heven⟩
      obtain rfl := hrow.unique hrow'
      rw [if_neg (by omega), if_neg hlength]

section Plain
variable {digits : List Char} (h : Interspersed text.toList digits)
include h

/-- Up to sixty-four digits are the text of a word. -/
theorem isData_iff_of_digits {w : Word} :
    IsData front text w ↔ digits.length ≤ 64 ∧ w.bits.toNat = hexNumber digits := by
  have hread : ReadBy front text (padded digits) := .digits h
  have hlength := length_padded digits
  constructor
  · rintro ⟨row, hrow, hwidth, hvalue⟩
    obtain rfl := hread.unique hrow
    rw [hexNumber_padded] at hvalue
    exact ⟨by omega, hvalue⟩
  · rintro ⟨hshort, hvalue⟩
    exact ⟨padded digits, hread, by omega, hvalue.trans (hexNumber_padded digits).symm⟩

/-- Too many digits are not, and reading them stops if their number is even. -/
theorem isMisfit_iff_of_digits :
    IsMisfit front text ↔ 64 < digits.length ∧ digits.length % 2 = 0 := by
  have hread : ReadBy front text (padded digits) := .digits h
  have hlength := length_padded digits
  constructor
  · rintro ⟨row, hrow, hwidth, heven⟩
    obtain rfl := hread.unique hrow
    omega
  · rintro ⟨hlong, heven⟩
    exact ⟨padded digits, hread, by omega, by omega⟩

end Plain

/-! ## What is written is read back -/

theorem toList_quantity (n : Nat) : (quantity n).toList = '0' :: 'x' :: Text.digits 16 n := by
  rw [quantity, Text.hexText, String.toList_append, String.toList_ofList]
  simp

/-- Nothing that is written is a blank. -/
theorem isSkipped_digit {c : Char} (h : IsHexDigit c) : isSkipped c = false := by
  cases hskipped : isSkipped c with
  | false => rfl
  | true =>
    have hblank : c = ' ' ∨ c = '\t' ∨ c = '\n' ∨ c = '\r' := by
      simpa [isSkipped, or_assoc] using hskipped
    rcases hblank with rfl | rfl | rfl | rfl <;> exact absurd h (by decide)

theorem isHexRow_of_valueOf? (h : Text.valueOf? 16 row = some n) : IsHexRow row :=
  (Text.valueOf?_sixteen_eq_some_iff.mp h).1

/-- **A quantity is read as the number it is written for**, if it has so few digits. -/
theorem ofQuantity?_quantity (hwidth : 0 < width) (hn : n < 16 ^ width) :
    ofQuantity? width (quantity n) = some n := by
  have hvalue : Text.valueOf? 16 (Text.digits 16 n) = some n :=
    Text.valueOf?_digits (by decide) (by decide) n
  have hdigit : ∀ c ∈ Text.digits 16 n, IsHexDigit c := isHexRow_of_valueOf? hvalue
  have hblanks : (Text.digits 16 n).countP isSkipped = 0 :=
    List.countP_eq_zero.mpr fun c hc => by simp [isSkipped_digit (hdigit c hc)]
  have hkept : (Text.digits 16 n).filter (!isSkipped ·) = Text.digits 16 n :=
    List.filter_eq_self.mpr fun c hc => by simp [isSkipped_digit (hdigit c hc)]
  refine ofQuantity?_eq_some_iff.mpr ⟨Text.digits 16 n, .inr (toList_quantity n),
    ⟨Text.digits_ne_nil 16 n, Text.length_digits_le (by decide) hwidth hn⟩,
    fun c hc => .inr (hdigit c hc), ?_⟩
  rw [hexNumber_countedDigits, hblanks, if_neg (by decide), hkept]
  exact (Text.valueOf?_sixteen_eq_some_iff.mp hvalue).2.symm

theorem blockOf?_quantity (block : UInt64) : blockOf? (quantity block.toNat) = some block := by
  have hfits : block.toNat < 16 ^ 16 := block.toNat_lt
  rw [blockOf?, ofQuantity?_quantity (by decide) hfits, Option.map_some, UInt64.ofNat_toNat]

/-- **A word is read as the word that its text is written for.** -/
theorem wordOf_text (front : FrontMarker) (w : Word) :
    wordOf front w.text = .returned (some w) := by
  have hfits : w.bits.toNat < 16 ^ 64 := w.bits.isLt
  have hvalue : Text.valueOf? 16 (Text.fixedDigits 16 64 w.bits.toNat) = some w.bits.toNat :=
    Text.valueOf?_fixedDigits_of_lt (by decide) (by decide) hfits
  obtain ⟨hrow, hnumber⟩ := Text.valueOf?_sixteen_eq_some_iff.mp hvalue
  have hplain : 'x' ∉ Text.fixedDigits 16 64 w.bits.toNat :=
    fun hx => absurd (hrow 'x' hx) (by decide)
  have hdigits : Interspersed w.text.toList (Text.fixedDigits 16 64 w.bits.toNat) := by
    rw [Word.text, String.toList_ofList]
    exact .marker (interspersed_iff.mpr ⟨withoutMarkers_of_not_mem hplain, hrow⟩)
  have hlength := Text.length_fixedDigits 16 64 w.bits.toNat
  exact wordOf_eq_word_iff.mpr ((isData_iff_of_digits hdigits).mpr ⟨hlength.le, hnumber.symm⟩)

end PairQuote.Rpc
