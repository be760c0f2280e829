import PairQuote.Proofs.Json.Fuel
import PairQuote.Proofs.Text.Digits

/-! # Reading JSON that was written

Strings are read back whatever characters they hold (`readString_escape`), and so are whole
numbers of at most 64 bits, if nothing follows that could belong to a number
(`readNumber_digits`).

An object is read member by member: a member that was written is read with its name, and what
follows is read as the remaining members (`readMembers_written`) or ends the object
(`readMembers_last`).  So an object whose values are texts is read back as a whole
(`readMembers_membersRow`).

What is written between quotation marks has no character below U+0020 (`visible_quotedRow`).
-/
namespace PairQuote.Json

variable {row rest : List Char} {c : Char} {n fuel depth : Nat}

/-! ## Strings -/

/-- A character with a letter of its own is read from this letter. -/
theorem readString_of_unescape? {letter : Char} {text : List Char} (hu : letter ≠ 'u')
    (hmeant : unescape? letter = some c) (h : readString row = some (text, rest)) :
    readString ('\\' :: letter :: row) = some (c :: text, rest) := by
  rw [readString, hmeant, h]
  · rfl
  · intro _ _ _ _ _ hletter
    exact absurd hletter hu

/-- **A character that was written is read back.** -/
theorem readString_escapeChar {text : List Char} (h : readString row = some (text, rest)) :
    readString (escapeChar c ++ row) = some (c :: text, rest) := by
  unfold escapeChar
  -- the seven characters with a letter of their own
  iterate 7
    split
    · next hc =>
      subst hc
      exact readString_of_unescape? (by decide) (by decide) h
  split
  · next hcontrol =>
    -- four digits, of a number that is half of no pair
    have hvalue : Text.valueOf? 16 (Text.fixedDigits 16 4 c.toNat) = some c.toNat :=
      Text.valueOf?_fixedDigits_of_lt (by decide) (by decide) (by omega)
    have hlow : ¬(0xDC00 ≤ c.toNat ∧ c.toNat ≤ 0xDFFF) := by omega
    have hhigh : ¬(0xD800 ≤ c.toNat ∧ c.toNat ≤ 0xDBFF) := by omega
    simp only [Text.fixedDigits, List.nil_append, List.cons_append] at hvalue ⊢
    rw [readString, hvalue]
    simp only [Option.bind_eq_bind, Option.bind_some, if_neg hlow, if_neg hhigh, h,
      Char.ofNat_toNat]
  · next hquote hslash _ _ _ _ _ hcontrol =>
    have hplain : ¬(c = '\\' ∨ c.toNat < 0x20) := not_or.mpr ⟨hslash, hcontrol⟩
    rw [List.cons_append, List.nil_append, readString, if_neg hplain, h]
    · rfl
    · exact hquote
    · exact fun _ _ _ _ _ h => absurd h hslash
    · exact fun _ _ h => absurd h hslash

/-- **A string that was written is read back**, whatever characters it holds. -/
theorem readString_escape (text rest : List Char) :
    readString (escape text ++ '"' :: rest) = some (text, rest) := by
  induction text with
  | nil => rw [escape, List.flatMap_nil, List.nil_append, readString]
  | cons c text ih =>
    rw [escape, List.flatMap_cons, List.append_assoc]
    exact readString_escapeChar ih

/-! ## Whole numbers -/

/-- The decimal digits are digits for the reader too. -/
theorem isDigit_digitChar {d : Nat} (h : d < 10) : (Text.digitChar d).isDigit = true := by
  have hall : ∀ d : Fin 10, (Text.digitChar d).isDigit = true := by decide
  exact hall ⟨d, h⟩

theorem toNat_digitChar_sub {d : Nat} (h : d < 10) :
    (Text.digitChar d).toNat - '0'.toNat = d := by
  have hall : ∀ d : Fin 10, (Text.digitChar d).toNat - '0'.toNat = d := by decide
  exact hall ⟨d, h⟩

theorem isDigit_of_mem_digits (h : c ∈ Text.digits 10 n) : c.isDigit = true := by
  obtain ⟨d, hd, rfl⟩ := Text.exists_digit_of_mem_digits (by decide) h
  exact isDigit_digitChar hd

/-- All digits of a number of 64 bits are kept. -/
theorem foldl_addWhole_digits (hn : n < UInt64.size) :
    (Text.digits 10 n).foldl addWhole (0, 0) = (n, 0) := by
  induction n using Text.digits.induct 10 with
  | case1 n hbase hlt ih =>
    have hfront := ih (by omega)
    have hlast : (Text.digitChar (n % 10)).toNat - '0'.toNat = n % 10 :=
      toNat_digitChar_sub (Nat.mod_lt n (by decide))
    have hvalue : n / 10 * 10 + n % 10 = n := Nat.div_add_mod' n 10
    rw [Text.digits, dif_pos hbase, List.foldl_append, hfront]
    show addWhole (n / 10, 0) (Text.digitChar (n % 10)) = (n, 0)
    unfold addWhole
    simp only [hlast, hvalue, if_pos (And.intro trivial hn)]
  | case2 n hbase =>
    have hlast : (Text.digitChar n).toNat - '0'.toNat = n := toNat_digitChar_sub (by omega)
    rw [Text.digits, dif_neg hbase]
    show addWhole (0, 0) (Text.digitChar n) = (n, 0)
    unfold addWhole
    simp only [hlast, Nat.zero_mul, Nat.zero_add, if_pos (And.intro trivial hn)]

/-- No number goes on with this row. -/
def EndsNumber (row : List Char) : Prop :=
  ∀ c ∈ row.head?, c.isDigit = false ∧ c ≠ '.' ∧ c ≠ 'e' ∧ c ≠ 'E'

/-- **A whole number that was written is read back.** -/
theorem readNumber_digits (hn : n < UInt64.size) (hends : EndsNumber row) :
    readNumber false (Text.digits 10 n ++ row) = some (.int n, row) := by
  have hrow : row.takeWhile (·.isDigit) = [] := by
    cases row with
    | nil => rfl
    | cons c row => exact List.takeWhile_cons_of_neg (by simp [(hends c rfl).1])
  have hwhole : (Text.digits 10 n ++ row).takeWhile (·.isDigit) = Text.digits 10 n := by
    rw [List.takeWhile_append_of_pos fun c hc => isDigit_of_mem_digits hc, hrow,
      List.append_nil]
  have hzero : ¬((Text.digits 10 n).isEmpty = true ∨
      1 < (Text.digits 10 n).length ∧ (Text.digits 10 n).head? = some '0') := by
    rintro (hempty | ⟨hlong, hfront⟩)
    · exact Text.digits_ne_nil 10 n (List.isEmpty_iff.mp hempty)
    · by_cases hzero : n = 0
      · subst hzero
        have hsingle : (Text.digits 10 0).length = 1 := by decide +kernel
        omega
      · exact Text.head?_digits_ne_zero (by decide) (by decide) hzero hfront
  unfold readNumber
  dsimp only
  rw [hwhole, if_neg hzero, foldl_addWhole_digits hn, List.drop_left]
  dsimp only
  split
  · next more => exact absurd rfl (hends '.' rfl).2.1
  · next d more _ =>
    obtain ⟨-, -, he, hE⟩ := hends d rfl
    have hwholeNumber : ¬(d = 'e' ∨ d = 'E' ∨ 0 ≠ 0) := by
      rintro (h | h | h)
      · exact he h
      · exact hE h
      · exact h rfl
    rw [if_neg hwholeNumber]
    rfl
  · rfl

/-! ## Values and members -/

theorem skipBlanks_of_visible (h : isBlank c = false) : skipBlanks (c :: row) = c :: row :=
  List.dropWhile_cons_of_neg (by rw [h]; exact Bool.false_ne_true)

/-- A text between quotation marks, and what follows. -/
def quotedRow (text : String) (rest : List Char) : List Char :=
  '"' :: (escape text.toList ++ '"' :: rest)

theorem skipBlanks_quotedRow (text : String) (rest : List Char) :
    skipBlanks (quotedRow text rest) = quotedRow text rest :=
  skipBlanks_of_visible (by decide)

/-- A text between quotation marks is read, whatever blanks are in front. -/
theorem readValue_of_quotedRow {text : String} (h : skipBlanks row = quotedRow text rest) :
    readValue (fuel + 1) depth row = some (.str text, rest) := by
  rw [readValue, h]
  show (readString (escape text.toList ++ '"' :: rest)).map _ = _
  rw [readString_escape]
  show some (Json.str (String.ofList text.toList), rest) = some (Json.str text, rest)
  rw [String.ofList_toList]

theorem readValue_quoted (text : String) (rest : List Char) :
    readValue (fuel + 1) depth (quotedRow text rest) = some (.str text, rest) :=
  readValue_of_quotedRow (skipBlanks_quotedRow text rest)

/-- An object whose first name was written is read by reading its members. -/
theorem readValue_of_members {name : String} {inner : List Char} (hdepth : 1 < depth)
    (hopen : skipBlanks row = '\x7b' :: inner) (hinner : skipBlanks inner = quotedRow name rest) :
    readValue (fuel + 1) depth row =
      (readMembers fuel (depth - 1) (quotedRow name rest)).map fun (members, rest) =>
        (.obj members, rest) := by
  rw [readValue, hopen]
  split
  · next h => cases h
  · next h => cases h
  · next after h =>
    obtain rfl : after = inner := (List.cons.inj h).2.symm
    rw [if_neg (Nat.not_le.mpr hdepth), hinner]
    -- a member begins with a quotation mark, so the object is not at its end
    split
    · next h => cases h
    · rfl
  · next h => cases h
  · next hbrace _ => exact absurd rfl (hbrace inner)

/-- An object that was written is read by reading its members. -/
theorem readValue_members (name : String) (hdepth : 1 < depth) :
    readValue (fuel + 1) depth ('\x7b' :: quotedRow name row) =
      (readMembers fuel (depth - 1) (quotedRow name row)).map fun (members, rest) =>
        (.obj members, rest) :=
  readValue_of_members hdepth (skipBlanks_of_visible (by decide)) (skipBlanks_quotedRow name row)

theorem not_isBlank_of_isDigit (h : c.isDigit = true) : isBlank c = false := by
  by_contra hc
  have hblank : c = ' ' ∨ c = '\t' ∨ c = '\n' ∨ c = '\r' := by
    rw [Bool.not_eq_false] at hc
    simpa [isBlank, or_assoc] using hc
  rcases hblank with rfl | rfl | rfl | rfl
  all_goals exact absurd h (by decide)

theorem readValue_digits (hn : n < UInt64.size) (hends : EndsNumber row) :
    readValue (fuel + 1) depth (Text.digits 10 n ++ row) = some (.int n, row) := by
  have hread := readNumber_digits hn hends
  cases hdigits : Text.digits 10 n with
  | nil => exact absurd hdigits (Text.digits_ne_nil 10 n)
  | cons d digits =>
    have hd : d.isDigit = true := isDigit_of_mem_digits (hdigits ▸ List.mem_cons_self)
    rw [hdigits, List.cons_append] at hread
    rw [List.cons_append, readValue, skipBlanks_of_visible (not_isBlank_of_isDigit hd)]
    -- a digit begins neither a string nor a container, and it is no sign
    split
    · next hrow =>
      cases hrow
      cases hd
    · next hrow =>
      cases hrow
      cases hd
    · next hrow =>
      cases hrow
      cases hd
    · next hrow =>
      cases hrow
      cases hd
    · exact (if_pos hd).trans hread

/-- A member that was written is read with its name, whatever blanks are around the name. -/
theorem readMembers_of_quotedRow {name : String} {named : List Char}
    (hname : skipBlanks rest = quotedRow name named) (hcolon : skipBlanks named = ':' :: row) :
    readMembers (fuel + 1) depth rest =
      (readValue fuel depth row).bind fun (value, rest) =>
        match skipBlanks rest with
        | ',' :: rest => (readMembers fuel depth rest).bind fun (members, rest) =>
            some ((name, value) :: members, rest)
        | '\x7d' :: rest => some ([(name, value)], rest)
        | _ => none := by
  rw [readMembers, hname]
  show (readString (escape name.toList ++ '"' :: named)).bind _ = _
  rw [readString_escape, Option.bind_some]
  dsimp only
  rw [hcolon, String.ofList_toList]
  rfl

theorem readMembers_quotedRow (name : String) :
    readMembers (fuel + 1) depth (quotedRow name (':' :: row)) =
      (readValue fuel depth row).bind fun (value, rest) =>
        match skipBlanks rest with
        | ',' :: rest => (readMembers fuel depth rest).bind fun (members, rest) =>
            some ((name, value) :: members, rest)
        | '\x7d' :: rest => some ([(name, value)], rest)
        | _ => none :=
  readMembers_of_quotedRow (skipBlanks_quotedRow name _) (skipBlanks_of_visible (by decide))

/-- A member that was written is read, and then the others. -/
theorem readMembers_written {value : Json} (name : String)
    (hvalue : readValue fuel depth row = some (value, ',' :: rest)) :
    readMembers (fuel + 1) depth (quotedRow name (':' :: row)) =
      (readMembers fuel depth rest).bind fun (members, rest) =>
        some ((name, value) :: members, rest) := by
  rw [readMembers_quotedRow, hvalue, Option.bind_some]
  dsimp only
  rw [skipBlanks_of_visible (by decide)]
  rfl

/-- The last member that was written is read. -/
theorem readMembers_last {value : Json} (name : String)
    (hvalue : readValue fuel depth row = some (value, '\x7d' :: rest)) :
    readMembers (fuel + 1) depth (quotedRow name (':' :: row)) =
      some ([(name, value)], rest) := by
  rw [readMembers_quotedRow, hvalue, Option.bind_some]
  dsimp only
  rw [skipBlanks_of_visible (by decide)]
  rfl

/-! ## Objects of texts -/

/-- What follows a member of an object: other members with texts as values, and its end. -/
def membersRow (rest : List Char) : List (String × String) → List Char
  | [] => '\x7d' :: rest
  | (name, value) :: members =>
    ',' :: quotedRow name (':' :: quotedRow value (membersRow rest members))

/-- **Members that were written are read back**, whatever their texts are. -/
theorem readMembers_membersRow (name value : String) (members : List (String × String))
    (hfuel : members.length + 2 ≤ fuel) :
    readMembers fuel depth (quotedRow name (':' :: quotedRow value (membersRow rest members))) =
      some ((name, .str value) :: members.map fun m => (m.1, .str m.2), rest) := by
  induction members generalizing name value fuel with
  | nil =>
    obtain ⟨fuel, rfl⟩ : ∃ k, fuel = k + 2 := ⟨fuel - 2, by rw [List.length_nil] at hfuel; omega⟩
    exact readMembers_last name (readValue_quoted value _)
  | cons next members ih =>
    rw [List.length_cons] at hfuel
    obtain ⟨fuel, rfl⟩ : ∃ k, fuel = k + 2 := ⟨fuel - 2, by omega⟩
    rw [membersRow, readMembers_written name (readValue_quoted value _),
      ih next.1 next.2 (by omega)]
    rfl

/-! ## No control characters -/

/-- No character of a row is below U+0020. -/
def Visible (row : List Char) : Prop := ∀ c ∈ row, 0x20 ≤ c.toNat

@[simp] theorem visible_nil : Visible [] := nofun

@[simp] theorem visible_cons : Visible (c :: row) ↔ 0x20 ≤ c.toNat ∧ Visible row :=
  List.forall_mem_cons

@[simp] theorem visible_append {row' : List Char} :
    Visible (row ++ row') ↔ Visible row ∧ Visible row' :=
  List.forall_mem_append

theorem visible_fixedDigits (width n : Nat) : Visible (Text.fixedDigits 16 width n) := by
  have hall : ∀ d : Fin 16, 0x20 ≤ (Text.digitChar d).toNat := by decide
  induction width generalizing n with
  | zero => exact visible_nil
  | succ width ih =>
    have hlast : n % 16 < 16 := Nat.mod_lt n (by decide)
    rw [Text.fixedDigits, visible_append, visible_cons]
    exact ⟨ih (n / 16), hall ⟨n % 16, hlast⟩, visible_nil⟩

/-- No character is written as a control character. -/
theorem visible_escapeChar (c : Char) : Visible (escapeChar c) := by
  unfold escapeChar
  iterate 7
    split
    · simp
  split
  · simpa using visible_fixedDigits 4 c.toNat
  · next hcontrol => simpa using hcontrol

theorem visible_quotedRow (text : String) : Visible (quotedRow text rest) ↔ Visible rest := by
  have hescape : Visible (escape text.toList) := by
    intro c hc
    obtain ⟨d, -, hd⟩ := List.mem_flatMap.mp hc
    exact visible_escapeChar d c hd
  simp [quotedRow, hescape]

theorem visible_membersRow (members : List (String × String)) :
    Visible (membersRow rest members) ↔ Visible rest := by
  induction members with
  | nil => simp [membersRow]
  | cons next members ih => simp [membersRow, visible_quotedRow, ih]

end PairQuote.Json
