import PairQuote.Proofs.Http.Parameters
import PairQuote.Proofs.Text.LeadingZeros

/-! # Amounts in requests and responses

An amount comes and goes as a row of decimal digits of any length.  A row is read for the number
that its digits stand for, and a number is written as its shortest row, so what is written is read
back, and what is read is written without its leading zeros.  `ReadsAmounts` says what this asks of
a reader.

The text of an amount may also be looked at byte by byte first and then be handed to a reader of
numbers, which knows nothing of the first stage and could refuse the text with a cause of its own
(`amountInStages`).  Of what the first stage lets through, such a reader refuses the empty row
only, and a parameter that has to be there is never empty.  So no request is told that its amount
is no number.
-/
namespace PairQuote.Http

variable {read : List Char → Except String Nat} {text : String}

/-! ## The two stages -/

/-- The refusal of an amount that the reader of numbers does not take. -/
def notANumber (cause : String) : Refusal :=
  .invalidRequest ("source amount must be a valid number: " ++ cause)

/-- How reading an amount in two stages may end. -/
inductive AmountEnding where
  | read (n : Nat)
  /-- The first stage does not let the text through. -/
  | malformed
  /-- The first stage lets the text through, and the reader of numbers refuses it. -/
  | unreadable (cause : String)
  deriving DecidableEq, Repr

namespace AmountEnding

/-- The ending that the reader of numbers decides. -/
def ofReading : Except String Nat → AmountEnding
  | .ok n => .read n
  | .error cause => .unreadable cause

/-- What the request is told. -/
def result : AmountEnding → Except Refusal Nat
  | .read n => .ok n
  | .malformed => .error .malformedAmount
  | .unreadable cause => .error (notANumber cause)

end AmountEnding

/-- Reads an amount with a reader of numbers. -/
def amountInStages (read : List Char → Except String Nat) (text : String) : AmountEnding :=
  if (Text.toUtf8 text.toList).all Text.isDecimalByte then .ofReading (read text.toList)
  else .malformed

/-- A reader of numbers takes rows of decimal digits, but not the empty one.  What it makes of
anything else is left open. -/
structure ReadsDigits (read : List Char → Except String Nat) : Prop where
  number : ∀ row, row ≠ [] → Text.IsDecimalRow row → read row = .ok (Text.decimalValue row)
  empty : read [] = .error "cannot parse integer from empty string"

/-- **How reading in two stages ends.** -/
theorem amountInStages_eq (hread : ReadsDigits read) (text : String) :
    amountInStages read text =
      if text = "" then .unreadable "cannot parse integer from empty string"
      else if Text.IsDecimalRow text.toList then .read (Text.decimalValue text.toList)
      else .malformed := by
  simp only [amountInStages, Text.all_isDecimalByte_toUtf8_iff]
  by_cases hempty : text = ""
  · subst hempty
    rw [if_pos rfl, if_pos (by decide), String.toList_empty, hread.empty]
    rfl
  · rw [if_neg hempty]
    by_cases hdigits : Text.IsDecimalRow text.toList
    · rw [if_pos hdigits, if_pos hdigits, hread.number _ (by simpa using hempty) hdigits]
      rfl
    · rw [if_neg hdigits, if_neg hdigits]

/-- Both stages together read what is read at once. -/
theorem result_amountInStages (hread : ReadsDigits read) (text : String) :
    (amountInStages read text).result = amountOf text := by
  rw [amountInStages_eq hread]
  by_cases hempty : text = ""
  · subst hempty
    rfl
  · rw [if_neg hempty, amountOf_eq hempty]
    by_cases hdigits : Text.IsDecimalRow text.toList
    · rw [if_pos hdigits, if_pos hdigits]
      rfl
    · rw [if_neg hdigits, if_neg hdigits]
      rfl

/-- The reader of numbers refuses nothing but the empty text. -/
theorem amountInStages_ne_unreadable (hread : ReadsDigits read) (h : text ≠ "") (cause : String) :
    amountInStages read text ≠ .unreadable cause := by
  rw [amountInStages_eq hread, if_neg h]
  split
  · exact nofun
  · exact nofun

/-! ## What a request can be told -/

/-- A parameter that has to be there is not empty. -/
theorem ne_empty_of_requiredParameter {fields : List (String × String)} {key name : String}
    (h : requiredParameter fields key name = .ok text) : text ≠ "" := by
  rw [requiredParameter_eq, ruling_eq_ok_iff] at h
  obtain ⟨hpresent, rfl⟩ := h
  exact Asked.text_ne_of_absence hpresent

/-- The texts of faults that do not depend on the request. -/
def fixedFaults : List String :=
  [ "pool parameter is required", "source token parameter is required",
    "destination token parameter is required", "source amount parameter is required",
    "source amount must be a valid non-negative integer", "source amount must be positive",
    "source and destination tokens cannot be the same" ]

/-- All that can be wrong with the parameters. -/
theorem Asked.cause_cases {p : Asked} {cause : String} (h : some cause ∈ p.faults) :
    cause ∈ fixedFaults ∨
      ∃ field text, cause = "invalid " ++ field ++ " address format: " ++ text := by
  have hfixed : ∀ {c : Prop} [Decidable c] {told : String}, told ∈ fixedFaults →
      some cause = (if c then some told else none) → cause ∈ fixedFaults := by
    intro c _ told htold h
    split at h
    · exact Option.some.inj h ▸ htold
    · cases h
  have haddress : ∀ {field text : String}, some cause = Address.fault field text →
      ∃ field text, cause = "invalid " ++ field ++ " address format: " ++ text := by
    intro field text h
    rw [Address.fault] at h
    split at h
    · cases h
    · exact ⟨field, text, Option.some.inj h⟩
  simp only [faults, ownFaults, QuoteRequest.faults, List.mem_append, List.mem_cons,
    List.not_mem_nil, or_false] at h
  rcases h with (h | h | h | h | h) | (h | h | h | h | h)
  · exact .inl (hfixed (by decide) h)
  · exact .inl (hfixed (by decide) h)
  · exact .inl (hfixed (by decide) h)
  · exact .inl (hfixed (by decide) h)
  · rw [← ite_not] at h
    exact .inl (hfixed (by decide) h)
  · exact .inl (hfixed (by decide) h)
  · exact .inr (haddress h)
  · exact .inr (haddress h)
  · exact .inr (haddress h)
  · exact .inl (hfixed (by decide) h)

/-- No fault of the parameters is that the amount is no number. -/
theorem Asked.notANumber_not_mem_faults (p : Asked) (cause : String) :
    some ("source amount must be a valid number: " ++ cause) ∉ p.faults := by
  intro h
  rcases Asked.cause_cases h with hfixed | ⟨field, text, hsame⟩
  · have hall : ∀ told ∈ fixedFaults,
        ¬"source amount must be a valid number: ".toList <+: told.toList := by decide +kernel
    refine hall _ hfixed ?_
    rw [String.toList_append]
    exact List.prefix_append _ _
  · have hfirst := congrArg (fun told => told.toList.head?) hsame
    simp at hfirst

/-- **No request is told that its amount is no number**, on any chain and at any desk. -/
theorem Server.estimateFor_ne_notANumber {σ : Type} (source : ChainSource σ)
    (fields : List (String × String)) (desk : Desk σ) (cause : String) :
    ((estimateFor source fields).run desk).1 ≠ .error (notANumber cause) := by
  cases hjudge : judge fields with
  | error e =>
    rw [estimateFor_run_error hjudge]
    rintro hfault
    obtain rfl : e = notANumber cause := Except.error.inj hfault
    rw [judge_eq, ruling_eq_error_iff] at hjudge
    obtain ⟨first, hfirst, hsame⟩ := hjudge
    obtain rfl := Refusal.invalidRequest.inj hsame
    obtain ⟨fault, hmem, rfl⟩ := List.exists_of_findSome?_eq_some hfirst
    exact Asked.notANumber_not_mem_faults _ cause hmem
  | ok request =>
    -- what a quote itself is refused for is never the request
    rw [estimateFor_run_ok hjudge, quote_run]
    have exit := (source.answers request.pair desk.observed.chain).exit request
    dsimp only
    generalize (source.answers request.pair desk.observed.chain).outcome request = result at exit ⊢
    generalize (source.answers request.pair desk.observed.chain).reached = made at exit
    cases exit <;> simp [notANumber, Refusal.noPair, Refusal.emptyReserves]

/-! ## What is read -/

theorem toUtf8_eq_toUTF8 (text : String) :
    Text.toUtf8 text.toList = text.toUTF8.data.toList.map (·.toNat) := by
  obtain ⟨row, rfl⟩ : ∃ row, text = String.ofList row := ⟨text.toList, by simp⟩
  rw [String.toList_ofList, String.toUTF8, String.toByteArray_ofList, List.utf8Encode,
    List.data_toByteArray, List.toList_toArray, Text.toUtf8, List.map_flatMap]

/-- The bytes of a text are codes of decimal digits exactly if its characters are. -/
theorem bytes_isDecimal_iff (text : String) :
    (∀ b ∈ text.toUTF8.data, 0x30 ≤ b ∧ b ≤ 0x39) ↔ Text.IsDecimalRow text.toList := by
  rw [← Text.all_isDecimalByte_toUtf8_iff, toUtf8_eq_toUTF8, List.all_map, List.all_eq_true]
  simp only [Function.comp_apply, Text.isDecimalByte, Bool.and_eq_true, decide_eq_true_eq,
    Array.mem_toList_iff]
  exact Iff.rfl

/-- What it means that a reader takes the texts of amounts, each for its number, and no others. -/
structure ReadsAmounts (read : String → Except Refusal Nat) : Prop where
  /-- Of the texts that are not empty, those are taken whose bytes are all decimal digits. -/
  accepts_iff : ∀ text, text ≠ "" →
    ((∃ n, read text = .ok n) ↔ ∀ b ∈ text.toUTF8.data, 0x30 ≤ b ∧ b ≤ 0x39)
  /-- The number is the one with these digits, however many there are. -/
  value : ∀ text n, read text = .ok n →
    n = Nat.ofDigits 10 (text.toList.reverse.map fun c => c.toNat - '0'.toNat)
  /-- Any other text is refused, and the refusal does not depend on it. -/
  refuses : ∀ text, text ≠ "" → ¬Text.IsDecimalRow text.toList →
    read text = .error (.invalidRequest "source amount must be a valid non-negative integer")
  /-- Zeros in front of a text make no difference. -/
  zeros : ∀ count text, text ≠ "" →
    read (String.ofList (List.replicate count '0') ++ text) = read text
  /-- The body of the answer with an amount is read as this amount. -/
  reads_body : ∀ n, read (Response.amount n).body = .ok n
  /-- What is read is written without the zeros in front, and zero as one of them. -/
  writes : ∀ text n, read text = .ok n → (Response.amount n).body =
    if Text.withoutZeros text.toList = [] then "0"
    else String.ofList (Text.withoutZeros text.toList)
  /-- Two texts are of one amount exactly if they are equal without the zeros in front. -/
  eq_iff : ∀ text text' n n', read text = .ok n → read text' = .ok n' →
    (n = n' ↔ Text.withoutZeros text.toList = Text.withoutZeros text'.toList)

/-- A text is taken exactly if it is a row of decimal digits with at least one of them. -/
theorem amountOf_eq_ok_iff {n : Nat} :
    amountOf text = .ok n ↔
      text ≠ "" ∧ Text.IsDecimalRow text.toList ∧ n = Text.decimalValue text.toList := by
  by_cases hempty : text = ""
  · subst hempty
    exact ⟨nofun, fun h => absurd rfl h.1⟩
  · rw [amountOf_eq hempty, ruling_eq_ok_iff]
    by_cases hdigits : Text.IsDecimalRow text.toList
    · simp [hempty, hdigits, eq_comm]
    · simp [hdigits]

theorem readsAmounts_amountOf : ReadsAmounts amountOf where
  accepts_iff text hempty := by
    simp only [amountOf_eq_ok_iff, bytes_isDecimal_iff]
    exact ⟨fun ⟨_, _, hdigits, _⟩ => hdigits, fun hdigits => ⟨_, hempty, hdigits, rfl⟩⟩
  value text n h := (amountOf_eq_ok_iff.mp h).2.2
  refuses text hempty hdigits := by
    rw [amountOf_eq hempty, if_neg hdigits]
    rfl
  zeros count text hempty := by
    have hmore : String.ofList (List.replicate count '0') ++ text ≠ "" := by
      simp [String.append_eq_empty_iff, hempty]
    rw [amountOf_eq hmore, amountOf_eq hempty, String.toList_append, String.toList_ofList]
    by_cases hrow : Text.IsDecimalRow text.toList
    · obtain ⟨hzeros, hvalue⟩ := Text.decimalValue_zeros hrow count
      rw [if_pos hzeros, if_pos hrow, hvalue]
    · have hzeros : ¬Text.IsDecimalRow (List.replicate count '0' ++ text.toList) :=
        fun h => hrow (List.forall_mem_append.mp h).2
      rw [if_neg hzeros, if_neg hrow]
      rfl
  reads_body n := by
    obtain ⟨hrow, hvalue⟩ := Text.isDecimalRow_digits n
    refine amountOf_eq_ok_iff.mpr ⟨?_, ?_, ?_⟩
    · exact fun h => Text.digits_ne_nil 10 n (String.ofList_eq_empty_iff.mp h)
    · exact String.toList_ofList.symm ▸ hrow
    · exact hvalue.symm.trans (congrArg Text.decimalValue String.toList_ofList.symm)
  writes text n h := by
    obtain ⟨-, hrow, rfl⟩ := amountOf_eq_ok_iff.mp h
    show Text.decimal _ = _
    rcases Text.digits_decimalValue hrow with ⟨hvalue, hleft⟩ | ⟨-, hleft⟩
    · rw [if_pos hleft, hvalue, Text.decimal, Text.digits_of_lt (by decide)]
      rfl
    · rw [if_neg (hleft ▸ Text.digits_ne_nil 10 _), hleft]
      rfl
  eq_iff text text' n n' h h' := by
    obtain ⟨-, hrow, rfl⟩ := amountOf_eq_ok_iff.mp h
    obtain ⟨-, hrow', rfl⟩ := amountOf_eq_ok_iff.mp h'
    exact Text.decimalValue_eq_iff hrow hrow'

/-- **Amounts come and go exactly**, whether they are read at once or in two stages, and the second
stage never refuses what a request can bring before it. -/
theorem amounts_exact (hread : ReadsDigits read) :
    ReadsAmounts amountOf ∧
      (∀ text, (amountInStages read text).result = amountOf text) ∧
      (∀ fields text, requiredParameter fields "src_amount" "source amount" = .ok text →
        ∀ cause, amountInStages read text ≠ .unreadable cause) ∧
      ∀ (σ : Type) (source : ChainSource σ) fields (desk : Desk σ) cause,
        ((Server.estimateFor source fields).run desk).1 ≠ .error (notANumber cause) :=
  ⟨readsAmounts_amountOf, result_amountInStages hread,
    fun _ _ hasked => amountInStages_ne_unreadable hread (ne_empty_of_requiredParameter hasked),
    fun _ source fields desk => Server.estimateFor_ne_notANumber source fields desk⟩

/-- A reader of numbers that also takes a sign in front. -/
def readNumber (row : List Char) : Except String Nat :=
  if row = [] then .error "cannot parse integer from empty string"
  else
    match Text.valueOf? 10 (if row.head? = some '+' then row.tail else row) with
    | some n => .ok n
    | none => .error "invalid digit found in string"

theorem readsDigits_readNumber : ReadsDigits readNumber where
  number row hne hrow := by
    have hunsigned : row.head? ≠ some '+' := by
      intro hfirst
      exact absurd (hrow _ (List.mem_of_mem_head? hfirst)) (by decide)
    rw [readNumber, if_neg hne, if_neg hunsigned, Text.valueOf?_ten, if_pos hrow]
  empty := rfl

/-- Zeros in front of more digits than a machine word holds; a sign, which the reader of numbers
would take; and digits of another script. -/
theorem amounts_exact_beyond_a_word :
    amountOf "00340282366920938463463374607431768211456" = .ok (2 ^ 128) ∧
      (amountInStages readNumber "00340282366920938463463374607431768211456").result
        = .ok (2 ^ 128) ∧
      (Response.amount (2 ^ 128)).body = "340282366920938463463374607431768211456" ∧
      amountOf "+5" = .error .malformedAmount ∧
      amountOf "\u0661\u0662" = .error .malformedAmount := by
  obtain ⟨reads, same, -⟩ := amounts_exact readsDigits_readNumber
  have hread : amountOf "00340282366920938463463374607431768211456" = .ok (2 ^ 128) :=
    amountOf_eq_ok_iff.mpr (by decide +kernel)
  refine ⟨hread, (same _).trans hread, ?_, reads.refuses _ (by decide) (by decide +kernel),
    reads.refuses _ (by decide) (by decide +kernel)⟩
  rw [reads.writes _ _ hread]
  decide +kernel

end PairQuote.Http
