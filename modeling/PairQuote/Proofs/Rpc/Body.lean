import Mathlib.Data.List.Basic
import PairQuote.Proofs.Json.Written
import PairQuote.Rpc.Message

/-! # The members of a body

The names in a reply are read where they stand: between quotation marks, and without escapes
(`readPlain_eq_some_iff`).  Members that were written so are read one after another
(`readMembers_written`, `readMembers_last`).

What is read of a body in this way is nothing else than what it says as a JSON document
(`ofText?_of_members?`), and the fuel that values are read with is enough for them.
-/
namespace PairQuote.Rpc.Reply

open Json (skipBlanks quotedRow)

variable {row rest : List Char} {c : Char} {name text : String} {value : Json}
  {members : List (String × Json)} {most : Nat}

/-! ## Plain texts -/

/-- Every character of a text stands for itself. -/
def Plain (text : String) : Prop := ∀ c ∈ text.toList, isPlain c = true

instance (text : String) : Decidable (Plain text) :=
  decidable_of_iff (text.toList.all isPlain = true) List.all_eq_true

theorem escapeChar_of_isPlain (h : isPlain c = true) : Json.escapeChar c = [c] := by
  obtain ⟨hquote, hslash, hvisible⟩ : c ≠ '"' ∧ c ≠ '\\' ∧ 0x20 ≤ c.toNat := by
    simpa [isPlain, and_assoc] using h
  have hother : ∀ d : Char, d.toNat < 0x20 → c ≠ d := by
    rintro d hd rfl
    omega
  unfold Json.escapeChar
  rw [if_neg hquote, if_neg hslash, if_neg (hother _ (by decide)), if_neg (hother _ (by decide)),
    if_neg (hother _ (by decide)), if_neg (hother _ (by decide)), if_neg (hother _ (by decide)),
    if_neg (Nat.not_lt.mpr hvisible)]

theorem quotedRow_of_plain (h : Plain text) (rest : List Char) :
    quotedRow text rest = '"' :: (text.toList ++ '"' :: rest) := by
  have hescape : Json.escape text.toList = text.toList := by
    unfold Json.escape
    rw [List.flatMap_congr fun c hc => escapeChar_of_isPlain (h c hc)]
    exact List.flatMap_singleton' text.toList
  rw [quotedRow, hescape]

/-- **A text is read if it is written without escapes**, whatever blanks are in front. -/
theorem readPlain_eq_some_iff : readPlain row = some (text, rest) ↔
    Plain text ∧ skipBlanks row = quotedRow text rest := by
  constructor
  · intro h
    unfold readPlain at h
    split at h
    · next inner hrow =>
      split at h
      · next left hleft =>
        cases h
        have hplain : Plain (String.ofList (inner.takeWhile isPlain)) := by
          intro c hc
          rw [String.toList_ofList] at hc
          exact List.mem_takeWhile_imp hc
        refine ⟨hplain, ?_⟩
        rw [quotedRow_of_plain hplain, String.toList_ofList, hrow, ← hleft,
          List.takeWhile_append_dropWhile]
      · cases h
    · cases h
  · rintro ⟨hplain, hrow⟩
    have hend : isPlain '"' = false := by decide
    have htext : (text.toList ++ '"' :: rest).takeWhile isPlain = text.toList := by
      rw [List.takeWhile_append_of_pos hplain, List.takeWhile_cons_of_neg (by simp [hend]),
        List.append_nil]
    have hafter : (text.toList ++ '"' :: rest).dropWhile isPlain = '"' :: rest := by
      rw [List.dropWhile_append_of_pos hplain, List.dropWhile_cons_of_neg (by simp [hend])]
    unfold readPlain
    simp only [hrow, quotedRow_of_plain hplain, hafter, htext, String.ofList_toList]

/-! ## Members -/

theorem after?_singleton_eq_some_iff : Json.after? [c] row = some rest ↔ row = c :: rest := by
  cases row with
  | nil => exact ⟨nofun, nofun⟩
  | cons d row =>
    have hafter : Json.after? [c] (d :: row) = if c = d then some row else none := by
      simp [Json.after?]
    rw [hafter]
    by_cases h : c = d
    · rw [if_pos h, h, Option.some.injEq, List.cons.injEq, eq_self, true_and]
    · rw [if_neg h]
      exact ⟨nofun, fun hrow => absurd (List.cons.inj hrow).1.symm h⟩

/-- A member is read by reading its value. -/
theorem readMembers_of_name {named after : List Char} (hname : readPlain row = some (name, named))
    (hcolon : skipBlanks named = ':' :: after) :
    readMembers (most + 1) row = (readValueOf name after).bind fun (value, rest) =>
      match skipBlanks rest with
      | ',' :: rest => (readMembers most rest).bind fun (members, rest) =>
          some ((name, value) :: members, rest)
      | '\x7d' :: rest => some ([(name, value)], rest)
      | _ => none := by
  have hafter : Json.after? [':'] (skipBlanks named) = some after :=
    after?_singleton_eq_some_iff.mpr hcolon
  exact (congrArg (Option.bind · _) hname).trans (congrArg (Option.bind · _) hafter)

/-- Where there are members, there is a name in front, and a colon after it. -/
theorem exists_name_of_readMembers {read : List (String × Json) × List Char}
    (h : readMembers most row = some read) : ∃ fuel name named after, most = fuel + 1 ∧
      readPlain row = some (name, named) ∧ skipBlanks named = ':' :: after := by
  cases most with
  | zero => cases h
  | succ fuel =>
    obtain ⟨⟨name, named⟩, hname, h⟩ := Option.bind_eq_some_iff.mp h
    obtain ⟨after, hafter, -⟩ := Option.bind_eq_some_iff.mp h
    exact ⟨fuel, name, named, after, rfl, hname, after?_singleton_eq_some_iff.mp hafter⟩

/-! ## Members that were written -/

theorem readValueOf_version (hplain : Plain text) (rest : List Char) :
    readValueOf "jsonrpc" (quotedRow text rest) = some (.str text, rest) := by
  rw [readValueOf, if_pos rfl,
    readPlain_eq_some_iff.mpr ⟨hplain, Json.skipBlanks_quotedRow text rest⟩, Option.map_some]

theorem readValueOf_other (hname : name ≠ "jsonrpc")
    (hvalue : Json.readValue (2 * row.length + 1) (Json.maxDepth - 1) row = some (value, rest)) :
    readValueOf name row = some (value, rest) := by
  rw [readValueOf, if_neg hname, hvalue]

section Written
variable (hname : Plain name)
include hname

theorem readMembers_quotedRow :
    readMembers (most + 1) (quotedRow name (':' :: row)) =
      (readValueOf name row).bind fun (value, rest) =>
        match skipBlanks rest with
        | ',' :: rest => (readMembers most rest).bind fun (members, rest) =>
            some ((name, value) :: members, rest)
        | '\x7d' :: rest => some ([(name, value)], rest)
        | _ => none :=
  readMembers_of_name (readPlain_eq_some_iff.mpr ⟨hname, Json.skipBlanks_quotedRow name _⟩)
    (Json.skipBlanks_of_visible (by decide))

/-- A member that was written is read, and then the others. -/
theorem readMembers_written (hvalue : readValueOf name row = some (value, ',' :: rest)) :
    readMembers (most + 1) (quotedRow name (':' :: row)) =
      (readMembers most rest).bind fun (members, rest) =>
        some ((name, value) :: members, rest) := by
  rw [readMembers_quotedRow hname, hvalue, Option.bind_some]
  dsimp only
  rw [Json.skipBlanks_of_visible (by decide)]
  rfl

/-- The last member that was written is read. -/
theorem readMembers_last (hvalue : readValueOf name row = some (value, '\x7d' :: rest)) :
    readMembers (most + 1) (quotedRow name (':' :: row)) = some ([(name, value)], rest) := by
  rw [readMembers_quotedRow hname, hvalue, Option.bind_some]
  dsimp only
  rw [Json.skipBlanks_of_visible (by decide)]
  rfl

end Written

/-! ## The document of a body -/

theorem length_lt_of_quotedRow (h : skipBlanks row = quotedRow text rest) :
    rest.length < row.length := by
  have hinner := Json.length_of_skipBlanks h
  rw [List.length_append, List.length_cons] at hinner
  omega

/-- A value is read as in any document. -/
theorem readValue_of_readValueOf {fuel : Nat} (h : readValueOf name row = some (value, rest))
    (hfuel : 2 * row.length + 1 ≤ fuel) :
    Json.readValue fuel (Json.maxDepth - 1) row = some (value, rest) := by
  unfold readValueOf at h
  split at h
  · obtain ⟨⟨text, left⟩, hread, hvalue⟩ := Option.map_eq_some_iff.mp h
    cases hvalue
    obtain ⟨fuel, rfl⟩ : ∃ k, fuel = k + 1 := ⟨fuel - 1, by omega⟩
    exact Json.readValue_of_quotedRow (readPlain_eq_some_iff.mp hread).2
  · rw [Json.readValue_of_le hfuel, h]

/-- Members are read as in any document. -/
theorem json_readMembers_of_readMembers {row' : List Char} {fuel : Nat}
    (h : readMembers most row = some (members, rest)) (hrow : skipBlanks row' = skipBlanks row)
    (hfuel : 2 * row.length + 2 ≤ fuel) :
    Json.readMembers fuel (Json.maxDepth - 1) row' = some (members, rest) := by
  induction most generalizing row row' members fuel with
  | zero => cases h
  | succ most ih =>
    obtain ⟨_, name, named, after, -, hname, hcolon⟩ := exists_name_of_readMembers h
    obtain ⟨-, hquoted⟩ := readPlain_eq_some_iff.mp hname
    have hnamed := length_lt_of_quotedRow hquoted
    have hafter := Json.length_of_skipBlanks hcolon
    obtain ⟨fuel, rfl⟩ : ∃ k, fuel = k + 1 := ⟨fuel - 1, by omega⟩
    rw [readMembers_of_name hname hcolon] at h
    obtain ⟨⟨value, left⟩, hvalue, h⟩ := Option.bind_eq_some_iff.mp h
    have hread : Json.readValue fuel (Json.maxDepth - 1) after = some (value, left) :=
      readValue_of_readValueOf hvalue (by omega)
    have hleft := (Json.shortens_read fuel (Json.maxDepth - 1)).1 hread
    rw [Json.readMembers_of_quotedRow (hrow.trans hquoted) hcolon, hread, Option.bind_some]
    dsimp only at h ⊢
    generalize hmore : skipBlanks left = following at h ⊢
    split at h
    · next more =>
      have hshorter := Json.length_of_skipBlanks hmore
      obtain ⟨⟨others, left'⟩, hothers, h⟩ := Option.bind_eq_some_iff.mp h
      obtain ⟨rfl, rfl⟩ : (name, value) :: others = members ∧ left' = rest := by simpa using h
      have hsame : Json.readMembers fuel (Json.maxDepth - 1) more = some (others, left') :=
        ih hothers rfl (by omega)
      show (Json.readMembers fuel (Json.maxDepth - 1) more).bind _ = _
      rw [hsame, Option.bind_some]
    · cases h
      rfl
    · cases h

/-- **What is read of a body is what it says as a document.** -/
theorem ofText?_of_members? {body : String} (h : members? body = some members) :
    Json.ofText? body = some (.obj members) := by
  obtain ⟨row, hopen, h⟩ := Option.bind_eq_some_iff.mp h
  obtain ⟨⟨members', rest⟩, hread, h⟩ := Option.bind_eq_some_iff.mp h
  dsimp only at h
  split at h
  · next hend =>
    cases h
    rw [after?_singleton_eq_some_iff] at hopen
    have hlength := Json.length_of_skipBlanks hopen
    obtain ⟨_, name, named, _, -, hname, -⟩ := exists_name_of_readMembers hread
    obtain ⟨-, hquoted⟩ := readPlain_eq_some_iff.mp hname
    unfold Json.ofText?
    dsimp only
    rw [Json.readValue_of_members (by decide) hopen hquoted,
      json_readMembers_of_readMembers hread
        ((Json.skipBlanks_quotedRow name named).trans hquoted.symm) (by omega), Option.map_some]
    exact if_pos hend
  · cases h

end PairQuote.Rpc.Reply
