import PairQuote.Proofs.Address.Spelling
import PairQuote.Proofs.Text.HexPairs
import PairQuote.QuoteRequest

/-! # Reading an address in two stages

The text of an address may also be looked at byte by byte first, behind the marker, and then be
handed to a decoder of digits, which knows nothing of the first stage and could refuse the text
with a cause of its own (`Address.readInStages`).

The first stage lets through the forty digits of base sixteen and nothing else
(`Address.wellFormed_iff`).  A decoder that takes these, two for each byte, is never given anything
that it refuses, and both stages together read what `Address.ofField` reads
(`Address.readInStages_eq`).  What that is, is said by `Address.ReadsExactly`.
-/
namespace PairQuote.Address

variable {decode : List Char → Except String Address} {row : List Char} {text : String}
  {a b : Address}

/-! ## The two stages -/

/-- How reading in two stages may end. -/
inductive Ending where
  | read (a : Address)
  /-- The first stage does not let the text through. -/
  | malformed
  /-- The first stage lets the text through, and the decoder refuses it. -/
  | undecodable (cause : String)
  deriving DecidableEq, Repr

/-- What the reader of a field is told. -/
def Ending.result (field text : String) : Ending → Except Refusal Address
  | .read a => .ok a
  | .malformed => .error (.malformedAddress field text)
  | .undecodable cause =>
    .error (.invalidRequest ("invalid " ++ field ++ " address " ++ text ++ ": " ++ cause))

/-- Whether a row is forty bytes long, each of them the code of a digit of base sixteen. -/
def wellFormed (row : List Char) : Bool :=
  (Text.toUtf8 row).length == 40 && (Text.toUtf8 row).all Text.isHexByte

/-- Reads an address with a decoder of digits. -/
def readInStages (decode : List Char → Except String Address) (text : String) : Ending :=
  match unmarked? text.toList with
  | none => .malformed
  | some row =>
    if wellFormed row then
      match decode row with
      | .ok a => .read a
      | .error cause => .undecodable cause
    else .malformed

/-- A decoder takes forty digits of base sixteen, two for each byte.  What it makes of anything
else is left open. -/
def DecodesPairs (decode : List Char → Except String Address) : Prop :=
  ∀ row, row.length = 40 → Text.IsHexRow row →
    ∃ a, decode row = .ok a ∧ a.bytes = Text.pairValues row

/-! ## The first stage -/

/-- **The first stage counts bytes, and lets through forty digits.** -/
theorem wellFormed_iff (row : List Char) :
    wellFormed row = true ↔ row.length = 40 ∧ Text.IsHexRow row := by
  rw [wellFormed, Bool.and_eq_true, beq_iff_eq, Text.all_isHexByte_toUtf8_iff]
  refine and_congr_left fun hrow => ?_
  rw [Text.length_toUtf8_of_hex hrow]

/-! ## The second stage -/

/-- The bytes of an address are those that its digits spell. -/
theorem bytes_eq_pairValues_iff (hlength : row.length = 40) :
    a.bytes = Text.pairValues row ↔ a.toNat = Text.hexNumber row := by
  have hvalue : byteValue (Text.pairValues row) = Text.hexNumber row :=
    Text.byteValue_pairValues (by rw [hlength])
  constructor
  · intro hbytes
    rw [← byteValue_bytes, hbytes, hvalue]
  · intro hnumber
    have hcount : (Text.pairValues row).length = 20 := by rw [Text.length_pairValues, hlength]
    rw [bytes, hnumber, ← hvalue, ← hcount]
    exact bytesOf_byteValue (Text.pairValues row)

/-- The decoder reads forty digits as they are read at once. -/
theorem decode_of_wellFormed (hdecode : DecodesPairs decode) (hrow : wellFormed row = true) :
    ∃ a, decode row = .ok a ∧ ofDigits? row = some a := by
  obtain ⟨hlength, hdigits⟩ := (wellFormed_iff row).mp hrow
  obtain ⟨a, ha, hbytes⟩ := hdecode row hlength hdigits
  exact ⟨a, ha, ofDigits?_eq_some_iff.mpr
    ⟨hlength, hdigits, (bytes_eq_pairValues_iff hlength).mp hbytes⟩⟩

/-- **Both stages together read what is read at once**, and never end in the decoder's refusal. -/
theorem readInStages_eq (hdecode : DecodesPairs decode) (text : String) :
    readInStages decode text = (ofText? text).elim .malformed .read := by
  rw [readInStages, ofText?_eq]
  cases hmarked : unmarked? text.toList with
  | none => rfl
  | some row =>
    rw [Option.bind_some]
    dsimp only
    by_cases hrow : wellFormed row = true
    · obtain ⟨a, ha, hread⟩ := decode_of_wellFormed hdecode hrow
      rw [hread, if_pos hrow, ha]
      rfl
    · have hunread : ofDigits? row = none := by
        rw [← Option.not_isSome_iff_eq_none, isSome_ofDigits?_iff, ← wellFormed_iff]
        exact hrow
      rw [hunread, if_neg hrow]
      rfl

theorem result_readInStages (hdecode : DecodesPairs decode) (field text : String) :
    (readInStages decode text).result field text = ofField field text := by
  rw [readInStages_eq hdecode, ofField]
  cases ofText? text with
  | none => rfl
  | some a => rfl

theorem readInStages_ne_undecodable (hdecode : DecodesPairs decode) (text cause : String) :
    readInStages decode text ≠ .undecodable cause := by
  rw [readInStages_eq hdecode]
  cases ofText? text with
  | none => exact nofun
  | some a => exact nofun

/-! ## What is read -/

theorem ofField_eq_ok_iff {field : String} :
    ofField field text = .ok a ↔ ofText? text = some a := by
  unfold ofField
  cases ofText? text with
  | none => exact ⟨nofun, nofun⟩
  | some b => simp

/-- What it means that a reader of fields reads the texts of addresses, each for what it spells,
and nothing else. -/
structure ReadsExactly (read : String → String → Except Refusal Address) : Prop where
  /-- An address is returned exactly for a marker and forty digits. -/
  accepts_iff : ∀ field text, (∃ a, read field text = .ok a) ↔ IsText text
  /-- Its bytes are spelled by the digits, and its number is theirs. -/
  decodes : ∀ field text a, read field text = .ok a →
    ∃ row, (text.toList = '0' :: 'x' :: row ∨ text.toList = '0' :: 'X' :: row) ∧
      a.bytes = Text.pairValues row ∧ a.toNat = Text.hexNumber row
  /-- It is written as the text in lower case. -/
  writes : ∀ field text a, read field text = .ok a →
    a.text = String.ofList (Text.lower text.toList)
  /-- Every address is read back from what it is written as. -/
  reads_text : ∀ field (a : Address), read field a.text = .ok a
  /-- Two texts are of one address exactly if they are equal up to the case of their letters. -/
  eq_iff : ∀ field other text text' a b, read field text = .ok a → read other text' = .ok b →
    (a = b ↔ Text.sameLetters text text' = true)
  /-- Any other text is refused, and the refusal names the field and the text. -/
  refuses : ∀ field text, ¬IsText text → read field text =
    .error (.invalidRequest ("invalid " ++ field ++ " address format: " ++ text))

theorem readsExactly_ofField : ReadsExactly ofField where
  accepts_iff field text := by
    simp only [ofField_eq_ok_iff, ← isSome_ofText?_iff, Option.isSome_iff_exists]
  decodes field text a h := by
    obtain ⟨row, hmarked, hlength, -, hnumber⟩ := ofText?_eq_some_iff.mp (ofField_eq_ok_iff.mp h)
    exact ⟨row, hmarked, (bytes_eq_pairValues_iff hlength).mpr hnumber, hnumber⟩
  writes field text a h := text_of_ofText? (ofField_eq_ok_iff.mp h)
  reads_text field a := ofField_eq_ok_iff.mpr (ofText?_text a)
  eq_iff field other text text' a b ha hb :=
    eq_iff_sameLetters (ofField_eq_ok_iff.mp ha) (ofField_eq_ok_iff.mp hb)
  refuses field text h := by
    have hunread : ofText? text = none := by
      rw [← Option.not_isSome_iff_eq_none, isSome_ofText?_iff]
      exact h
    rw [ofField, hunread]
    rfl

/-- **The texts of addresses are read exactly**, at once or in two stages, of which the second
never refuses what the first has let through. -/
theorem readExactly_inStages (hdecode : DecodesPairs decode) :
    ReadsExactly ofField ∧
      (∀ field text, (readInStages decode text).result field text = ofField field text) ∧
      ∀ text cause, readInStages decode text ≠ .undecodable cause :=
  ⟨readsExactly_ofField, result_readInStages hdecode, readInStages_ne_undecodable hdecode⟩

/-- A decoder that takes the digits of twenty bytes. -/
def decodePairs (row : List Char) : Except String Address :=
  if row.length = 40 then
    if Text.IsHexRow row then .ok ⟨BitVec.ofNat 160 (byteValue (Text.pairValues row))⟩
    else .error "invalid character"
  else .error "invalid input length"

theorem decodesPairs_decodePairs : DecodesPairs decodePairs := by
  intro row hlength hrow
  have hread : ofDigits? row = some ⟨BitVec.ofNat 160 (byteValue (Text.pairValues row))⟩ := by
    rw [ofDigits?, if_pos hlength, Text.valueOf?_sixteen, if_pos hrow, Option.map_some,
      Text.byteValue_pairValues (by rw [hlength])]
  refine ⟨_, ?_, (bytes_eq_pairValues_iff hlength).mpr (ofDigits?_eq_some_iff.mp hread).2.2⟩
  rw [decodePairs, if_pos hlength, if_pos hrow]

/-- Letters of both cases behind a large marker; and a character of two bytes among as many
digits as make forty bytes. -/
theorem readExactly_inStages_of_mixed_case :
    ∃ a, (readInStages decodePairs "0XB4e16d0168e52d35CaCD2c6185b44281Ec28C9Dc").result "pool"
        "0XB4e16d0168e52d35CaCD2c6185b44281Ec28C9Dc" = .ok a ∧
      a.text = "0xb4e16d0168e52d35cacd2c6185b44281ec28c9dc" ∧
      ofField "source token" "0xb4e16d0168e52d35cacd2c6185b44281ec28c9é" =
        .error (.invalidRequest
          "invalid source token address format: 0xb4e16d0168e52d35cacd2c6185b44281ec28c9é") := by
  obtain ⟨hexact, hstages, -⟩ := readExactly_inStages decodesPairs_decodePairs
  obtain ⟨a, ha⟩ := (hexact.accepts_iff "pool" "0XB4e16d0168e52d35CaCD2c6185b44281Ec28C9Dc").mpr
    (by decide +kernel)
  refine ⟨a, (hstages _ _).trans ha, (hexact.writes _ _ a ha).trans (by decide +kernel), ?_⟩
  exact hexact.refuses _ _ (by decide +kernel)

end PairQuote.Address
