import PairQuote.Proofs.Address.Reading
import PairQuote.Proofs.Text.Letters

/-! # How addresses are spelled

An address is spelled by a marker and the forty digits of its number (`ofText?_eq_some_iff`).  It
has several spellings, which differ in the case of their letters only: a text in lower case is read
as the text itself (`ofText?_lower`), and it is the text that the address is written with
(`text_of_ofText?`).  So two spellings are of one address exactly if they have the same letters
(`eq_iff_sameLetters`).
-/
namespace PairQuote.Address

variable {a b : Address} {text other : String} {row whole : List Char}

/-! ## The marker -/

/-- What stands behind a marker, if a row begins with it. -/
def behind? (marker whole : List Char) : Option (List Char) :=
  if marker <+: whole then some (whole.drop marker.length) else none

/-- What stands behind the marker of an address, which has two forms. -/
def unmarked? (whole : List Char) : Option (List Char) :=
  (behind? ['0', 'x'] whole).or (behind? ['0', 'X'] whole)

theorem behind?_eq_some_iff {marker : List Char} :
    behind? marker whole = some row ↔ whole = marker ++ row := by
  unfold behind?
  by_cases hmarked : marker <+: whole
  · obtain ⟨rest, rfl⟩ := hmarked
    rw [if_pos (List.prefix_append marker rest), List.drop_left, Option.some_inj,
      List.append_cancel_left_eq]
  · rw [if_neg hmarked]
    refine ⟨nofun, ?_⟩
    rintro rfl
    exact absurd (List.prefix_append marker row) hmarked

theorem unmarked?_eq_some_iff :
    unmarked? whole = some row ↔ whole = '0' :: 'x' :: row ∨ whole = '0' :: 'X' :: row := by
  rw [unmarked?, Option.or_eq_some_iff, behind?_eq_some_iff, behind?_eq_some_iff]
  constructor
  · rintro (hsmall | ⟨-, hlarge⟩)
    · exact .inl hsmall
    · exact .inr hlarge
  · rintro (rfl | rfl)
    · exact .inl rfl
    · exact .inr ⟨rfl, rfl⟩

/-- Reading takes the marker off and reads the digits. -/
theorem ofText?_eq (text : String) : ofText? text = (unmarked? text.toList).bind ofDigits? := by
  unfold ofText?
  split
  · next row hrow => rw [hrow, unmarked?_eq_some_iff.mpr (.inl rfl), Option.bind_some]
  · next row hrow => rw [hrow, unmarked?_eq_some_iff.mpr (.inr rfl), Option.bind_some]
  · next hsmall hlarge =>
    cases hrow : unmarked? text.toList with
    | none => rfl
    | some row =>
      rcases unmarked?_eq_some_iff.mp hrow with h | h
      · exact absurd h (hsmall row)
      · exact absurd h (hlarge row)

/-! ## The digits -/

theorem mk_ofNat_eq_iff {n : Nat} (hn : n < 2 ^ 160) :
    (⟨BitVec.ofNat 160 n⟩ : Address) = a ↔ a.toNat = n := by
  have htoNat : (BitVec.ofNat 160 n).toNat = n :=
    (BitVec.toNat_ofNat n 160).trans (Nat.mod_eq_of_lt hn)
  constructor
  · rintro rfl
    exact htoNat
  · rintro rfl
    exact congrArg Address.mk (BitVec.eq_of_toNat_eq htoNat)

/-- Forty digits are read as the address with their number. -/
theorem ofDigits?_eq_some_iff : ofDigits? row = some a ↔
    row.length = 40 ∧ Text.IsHexRow row ∧ a.toNat = Text.hexNumber row := by
  unfold ofDigits?
  by_cases hlength : row.length = 40
  · by_cases hrow : Text.IsHexRow row
    · have hlt := Text.hexNumber_lt hrow
      rw [hlength] at hlt
      rw [if_pos hlength, Text.valueOf?_sixteen, if_pos hrow, Option.map_some, Option.some_inj,
        mk_ofNat_eq_iff hlt]
      exact ⟨fun h => ⟨hlength, hrow, h⟩, fun h => h.2.2⟩
    · rw [if_pos hlength, Text.valueOf?_sixteen, if_neg hrow]
      exact ⟨nofun, fun h => absurd h.2.1 hrow⟩
  · rw [if_neg hlength]
    exact ⟨nofun, fun h => absurd h.1 hlength⟩

/-- **An address is read from a marker and the forty digits of its number.** -/
theorem ofText?_eq_some_iff : ofText? text = some a ↔
    ∃ row, (text.toList = '0' :: 'x' :: row ∨ text.toList = '0' :: 'X' :: row) ∧
      row.length = 40 ∧ Text.IsHexRow row ∧ a.toNat = Text.hexNumber row := by
  rw [ofText?_eq, Option.bind_eq_some_iff]
  exact exists_congr fun row => and_congr unmarked?_eq_some_iff ofDigits?_eq_some_iff

/-! ## The case of the letters -/

theorem lowerChar_eq_zero_iff (c : Char) : Text.lowerChar c = '0' ↔ c = '0' :=
  decide_eq_decide.mp (Text.apply_lowerChar (fun c => decide (c = '0')) (by decide +kernel) c)

theorem lowerChar_isMark_iff (c : Char) :
    Text.lowerChar c = 'x' ∨ Text.lowerChar c = 'X' ↔ c = 'x' ∨ c = 'X' :=
  decide_eq_decide.mp
    (Text.apply_lowerChar (fun c => decide (c = 'x' ∨ c = 'X')) (by decide +kernel) c)

theorem unmarked?_cons_cons (c d : Char) (row : List Char) :
    unmarked? (c :: d :: row) = if c = '0' ∧ (d = 'x' ∨ d = 'X') then some row else none := by
  refine Option.ext fun row' => ?_
  rw [unmarked?_eq_some_iff]
  by_cases hmark : c = '0' ∧ (d = 'x' ∨ d = 'X')
  · rw [if_pos hmark]
    obtain ⟨rfl, rfl | rfl⟩ := hmark
    · simp [eq_comm]
    · simp
  · rw [if_neg hmark]
    refine ⟨?_, nofun⟩
    rintro (h | h)
    · cases h
      exact absurd ⟨rfl, .inl rfl⟩ hmark
    · cases h
      exact absurd ⟨rfl, .inr rfl⟩ hmark

theorem unmarked?_lower (whole : List Char) :
    unmarked? (Text.lower whole) = (unmarked? whole).map Text.lower := by
  match whole with
  | [] => rfl
  | [c] => simp [unmarked?, behind?, Text.lower]
  | c :: d :: row =>
    have hmark := and_congr (lowerChar_eq_zero_iff c) (lowerChar_isMark_iff d)
    rw [Text.lower, List.map_cons, List.map_cons, unmarked?_cons_cons, unmarked?_cons_cons]
    by_cases h : c = '0' ∧ (d = 'x' ∨ d = 'X')
    · rw [if_pos h, if_pos (hmark.mpr h)]
      rfl
    · rw [if_neg h, if_neg (mt hmark.mp h)]
      rfl

theorem ofDigits?_lower (row : List Char) : ofDigits? (Text.lower row) = ofDigits? row := by
  rw [ofDigits?, ofDigits?, Text.valueOf?_lower, Text.lower, List.length_map]

/-- **A text in lower case is read as the text itself**, also if it is that of no address. -/
theorem ofText?_lower (text : String) :
    ofText? (String.ofList (Text.lower text.toList)) = ofText? text := by
  rw [ofText?_eq, ofText?_eq, String.toList_ofList, unmarked?_lower, Option.bind_map]
  exact congrArg _ (funext ofDigits?_lower)

/-- Texts with the same letters are read alike. -/
theorem ofText?_of_sameLetters (h : Text.sameLetters text other = true) :
    ofText? text = ofText? other := by
  have hlower : Text.lower text.toList = Text.lower other.toList := eq_of_beq h
  rw [← ofText?_lower, hlower, ofText?_lower]

/-- **An address is written as the text that it is read from, in lower case.** -/
theorem text_of_ofText? (h : ofText? text = some a) :
    a.text = String.ofList (Text.lower text.toList) := by
  obtain ⟨row, hmarked, hlength, hrow, hnumber⟩ := ofText?_eq_some_iff.mp h
  have hlower : Text.lower text.toList = '0' :: 'x' :: Text.lower row := by
    rcases hmarked with hmarked | hmarked
    · rw [hmarked]
      rfl
    · rw [hmarked]
      rfl
  rw [Address.text, hnumber, ← hlength, Text.fixedDigits_hexNumber hrow, hlower]

/-- **Two spellings are of one address exactly if they have the same letters.** -/
theorem eq_iff_sameLetters (ha : ofText? text = some a) (hb : ofText? other = some b) :
    a = b ↔ Text.sameLetters text other = true := by
  constructor
  · rintro rfl
    have htext := (text_of_ofText? ha).symm.trans (text_of_ofText? hb)
    exact beq_iff_eq.mpr (String.ofList_inj.mp htext)
  · intro hsame
    rw [ofText?_of_sameLetters hsame, hb] at ha
    exact (Option.some.inj ha).symm

end PairQuote.Address
