import PairQuote.Address
import PairQuote.Proofs.Text.Digits

/-! # Texts that are read as addresses

An address is read from `0x` or `0X` and forty digits of base sixteen, in either case, with
nothing before, between or after them (`Address.IsText`); from no other text.  The text that
an address is written with is read as this address.
-/
namespace PairQuote.Address

/-- The texts of addresses. -/
def IsText (text : String) : Prop :=
  ∃ row, (text.toList = '0' :: 'x' :: row ∨ text.toList = '0' :: 'X' :: row) ∧
    row.length = 40 ∧ Text.IsHexRow row

theorem isSome_ofDigits?_iff (row : List Char) :
    (ofDigits? row).isSome ↔ row.length = 40 ∧ Text.IsHexRow row := by
  unfold ofDigits?
  by_cases hlength : row.length = 40
  · rw [if_pos hlength, Option.isSome_map, Text.isSome_valueOf?_sixteen_iff]
    exact ⟨fun h => ⟨hlength, h⟩, fun h => h.2⟩
  · rw [if_neg hlength]
    exact ⟨nofun, fun h => absurd h.1 hlength⟩

/-- **An address is read from the texts of addresses and from no others.** -/
theorem isSome_ofText?_iff (text : String) : (ofText? text).isSome ↔ IsText text := by
  unfold ofText? IsText
  split
  · next row hrow =>
    rw [isSome_ofDigits?_iff, hrow]
    constructor
    · exact fun h => ⟨row, .inl rfl, h⟩
    · rintro ⟨row', hrow' | hrow', h⟩
      · cases hrow'
        exact h
      · cases hrow'
  · next row hrow =>
    rw [isSome_ofDigits?_iff, hrow]
    constructor
    · exact fun h => ⟨row, .inr rfl, h⟩
    · rintro ⟨row', hrow' | hrow', h⟩
      · cases hrow'
      · cases hrow'
        exact h
  · next hlower hupper =>
    refine ⟨nofun, ?_⟩
    rintro ⟨row, hrow | hrow, -⟩
    · exact absurd hrow (hlower row)
    · exact absurd hrow (hupper row)

instance (text : String) : Decidable (IsText text) :=
  decidable_of_iff _ (isSome_ofText?_iff text)

/-- **An address is read as the address that its text is written for.** -/
theorem ofText?_text (a : Address) : ofText? a.text = some a := by
  have hfits : a.toNat < 16 ^ 40 := a.bits.isLt
  unfold ofText?
  rw [text, String.toList_ofList]
  show ofDigits? (Text.fixedDigits 16 40 a.toNat) = some a
  rw [ofDigits?, Text.length_fixedDigits, if_pos rfl,
    Text.valueOf?_fixedDigits_of_lt (by decide) (by decide) hfits, Option.map_some, toNat,
    BitVec.ofNat_toNat, BitVec.setWidth_eq]

end PairQuote.Address
