import PairQuote.Http.Response
import PairQuote.Proofs.Json.Written

/-! # Reports that are read back

The document of a report is one JSON object in another, with a text for each field that is
present.  Whatever characters these texts hold, the document is read as these two objects
(`ofText?_text`), no character of it is below U+0020 (`visible_text`), and a caller who reads the
fields by their names gets the report back (`decode?_text`).  So a document tells everything that
the report holds, and reports with the same document are equal (`text_inj`).
-/
namespace PairQuote.RefusalReport

open Json (quotedRow membersRow Visible readValue readMembers)

variable {b b' : RefusalReport}

/-! ## Reading the fields of a report -/

/-- The values of the fields with these names, each of which may be absent from an object and none
may be there twice; others do not count.  An array has them in order and leaves none out. -/
def fieldsOf? (names : List String) : Json → Option (List (Option Json))
  | .obj members =>
    if (names.all fun name => (members.map (·.1)).count name ≤ 1) then
      some (names.map fun name => members.lookup name)
    else none
  | .arr items => if items.length = names.length then some (items.map some) else none
  | _ => none

/-- The text in a field that may be left out; `null` is as good as nothing. -/
def optionalText? : Option Json → Option (Option String)
  | none => some none
  | some .null => some none
  | some (.str text) => some (some text)
  | some _ => none

/-- Reads the object inside the document. -/
def decodeFields? (error : Json) : Option RefusalReport :=
  match fieldsOf? ["code", "message", "details"] error with
  | some [some (.str code), some (.str message), details] =>
    (optionalText? details).map fun details => ⟨code, message, details⟩
  | _ => none

/-- Reads a report from a document. -/
def decode? (text : String) : Option RefusalReport :=
  match (Json.ofText? text).bind (fieldsOf? ["error"]) with
  | some [some error] => decodeFields? error
  | _ => none

/-! ## The document of a report -/

/-- The fields after the code, with their names. -/
def furtherFields (b : RefusalReport) : List (String × String) :=
  ("message", b.message) :: (b.details.map fun details => ("details", details)).toList

/-- The object inside the document. -/
def inner (b : RefusalReport) : Json :=
  .obj (("code", .str b.code) :: b.furtherFields.map fun f => (f.1, .str f.2))

/-- The object inside the document as a row. -/
def innerRow (b : RefusalReport) (rest : List Char) : List Char :=
  '\x7b' :: quotedRow "code" (':' :: quotedRow b.code (membersRow rest b.furtherFields))

theorem toList_text (b : RefusalReport) :
    b.text.toList = '\x7b' :: quotedRow "error" (':' :: b.innerRow ['\x7d']) := by
  obtain ⟨code, message, details⟩ := b
  cases details
  all_goals simp [text, fields, field, String.intercalate_cons_cons,
    String.intercalate_singleton, Json.quoted, quotedRow, innerRow, membersRow, furtherFields]

theorem length_furtherFields_le (b : RefusalReport) : b.furtherFields.length ≤ 2 := by
  obtain ⟨code, message, details⟩ := b
  cases details with
  | none => exact Nat.le_succ 1
  | some details => exact Nat.le_refl 2

/-- The object inside the document is read. -/
theorem readValue_innerRow {fuel depth : Nat} (b : RefusalReport) (rest : List Char)
    (hfuel : 5 ≤ fuel) (hdepth : 1 < depth) :
    readValue fuel depth (b.innerRow rest) = some (b.inner, rest) := by
  obtain ⟨fuel, rfl⟩ : ∃ k, fuel = k + 1 := ⟨fuel - 1, by omega⟩
  have hlength := b.length_furtherFields_le
  rw [innerRow, Json.readValue_members "code" hdepth,
    Json.readMembers_membersRow "code" b.code _ (by omega)]
  rfl

/-- **The document of a report is one object in another**, with the texts of the report. -/
theorem ofText?_text (b : RefusalReport) :
    Json.ofText? b.text = some (.obj [("error", b.inner)]) := by
  unfold Json.ofText?
  rw [toList_text]
  generalize hrow : '\x7b' :: quotedRow "error" (':' :: b.innerRow ['\x7d']) = row
  have hlong : 3 ≤ row.length := by
    rw [← hrow]
    simp only [quotedRow, List.length_cons, List.length_append]
    omega
  -- the fuel that is left for the inner object is more than enough
  obtain ⟨fuel, hfuel, henough⟩ : ∃ fuel, 2 * row.length + 2 = fuel + 2 ∧ 5 ≤ fuel :=
    ⟨2 * row.length, rfl, by omega⟩
  have hread : readMembers (fuel + 1) 127 (quotedRow "error" (':' :: b.innerRow ['\x7d'])) =
      some ([("error", b.inner)], []) :=
    Json.readMembers_last "error" (b.readValue_innerRow _ henough (by decide))
  dsimp only
  rw [hfuel, ← hrow, Json.readValue_members "error" (by decide), Json.maxDepth, hread]
  rfl

/-- **No character of a document is below U+0020.** -/
theorem visible_text (b : RefusalReport) : Visible b.text.toList := by
  simp [toList_text, innerRow, Json.visible_quotedRow, Json.visible_membersRow]

/-- **A report is read back from its document.** -/
theorem decode?_text (b : RefusalReport) : decode? b.text = some b := by
  rw [decode?, ofText?_text]
  obtain ⟨code, message, details⟩ := b
  cases details with
  | none => rfl
  | some details => rfl

/-- Signs, control characters, U+007F and a character of four bytes. -/
example :
    decode? (text ⟨"A", "\"\\/\u0000\u0008\n\u001f\u007f𝄞", none⟩) =
      some ⟨"A", "\"\\/\u0000\u0008\n\u001f\u007f𝄞", none⟩ := by
  decide +kernel

/-- A document tells all that the report holds. -/
theorem text_inj : b.text = b'.text ↔ b = b' := by
  refine ⟨fun h => ?_, congrArg text⟩
  have hread := decode?_text b
  rw [h, decode?_text] at hread
  exact (Option.some.inj hread).symm

/-! ## Refusals -/

/-- What it means that the body of a response tells of a refusal what it should. -/
structure Tells (body : String) (e : Refusal) (withDetails : Bool) : Prop where
  /-- The body is one JSON document with these members and no others. -/
  document : Json.ofText? body = some (.obj [("error", .obj
    ([("code", .str e.code), ("message", .str e.message)] ++
      if withDetails then [("details", .str e.display)] else []))])
  /-- All characters below U+0020 in it are escaped. -/
  visible : ∀ c ∈ body.toList, 0x20 ≤ c.toNat
  /-- A caller reads the code, the message and, if they are given, the details. -/
  decodes : decode? body = some ⟨e.code, e.message, if withDetails then some e.display else none⟩

theorem tells_text (e : Refusal) (withDetails : Bool) :
    Tells (ofRefusal e withDetails).text e withDetails where
  document := by
    rw [ofText?_text]
    cases withDetails with
    | false => rfl
    | true => rfl
  visible := visible_text _
  decodes := decode?_text _

/-- **The body of a refusal tells exactly what it should**, with or without details and as it is
sent, and with details it tells any two refusals apart that do not read the same. -/
theorem refusal_told_exactly :
    (∀ e withDetails, Tells (ofRefusal e withDetails).text e withDetails) ∧
      (∀ e, Tells (Http.Response.refusal e).body e (e.status < 500)) ∧
      ∀ e e', (ofRefusal e true).text = (ofRefusal e' true).text ↔
        e.code = e'.code ∧ e.message = e'.message ∧ e.display = e'.display := by
  refine ⟨tells_text, fun e => tells_text e _, fun e e' => ?_⟩
  rw [text_inj]
  simp [ofRefusal]

end PairQuote.RefusalReport
