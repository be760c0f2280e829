import PairQuote.Proofs.Address.Spelling
import PairQuote.Proofs.Quote.Request
import PairQuote.Proofs.Word.Bytes

/-! # Which requests are accepted

A request given as texts is accepted if its amount is positive and its texts are those of three
addresses, of which the tokens differ (`QuoteRequest.check_eq_ok_iff`).  The accepted request
consists of these addresses and of the amount, so it depends on the texts only through what they
spell: it stays the same when letters change their case, and when the texts are replaced by those
that its own addresses are written with.

A refusal tells the first fault in the order of `QuoteRequest.faults`.  Whether the tokens differ
is asked of the addresses, so that two spellings of one token are at fault like two equal texts.
-/
namespace PairQuote.QuoteRequest

variable {pair src dst pair' src' dst' : String} {amountIn : Nat} {request : QuoteRequest}

/-! ## What is accepted -/

/-- There is no fault exactly if every check is passed. -/
theorem faults_none_iff : (faults pair src dst amountIn).findSome? id = none ↔
    0 < amountIn ∧ Address.IsText pair ∧ Address.IsText src ∧ Address.IsText dst ∧
      Address.inText src ≠ Address.inText dst := by
  rw [List.findSome?_eq_none_iff]
  simp only [faults, List.forall_mem_cons, id, ite_eq_right_iff, reduceCtorEq, imp_false,
    Address.fault_eq_none_iff, List.not_mem_nil, false_implies, implies_true, and_true]
  exact and_congr_left fun _ => Nat.pos_iff_ne_zero.symm

/-- An address that is read from a text is the one in it. -/
theorem ofText?_eq_some_iff_inText {text : String} {a : Address} :
    Address.ofText? text = some a ↔ Address.IsText text ∧ Address.inText text = a := by
  constructor
  · intro h
    refine ⟨(Address.isSome_ofText?_iff text).mp (by rw [h]; rfl), ?_⟩
    rw [Address.inText, h]
    rfl
  · rintro ⟨htext, rfl⟩
    exact Address.ofText?_of_isText htext

/-- Texts spell a request if they are those of addresses and it is the request made of these. -/
theorem spells_iff : Spells pair src dst request ↔
    Address.IsText pair ∧ Address.IsText src ∧ Address.IsText dst ∧
      ofTexts pair src dst request.amountIn = request := by
  constructor
  · rintro ⟨hpair, hsrc, hdst⟩
    obtain ⟨hpair, hpair'⟩ := ofText?_eq_some_iff_inText.mp hpair
    obtain ⟨hsrc, hsrc'⟩ := ofText?_eq_some_iff_inText.mp hsrc
    obtain ⟨hdst, hdst'⟩ := ofText?_eq_some_iff_inText.mp hdst
    refine ⟨hpair, hsrc, hdst, ?_⟩
    rw [ofTexts, hpair', hsrc', hdst']
  · rintro ⟨hpair, hsrc, hdst, hrequest⟩
    rw [← hrequest]
    exact ⟨Address.ofText?_of_isText hpair, Address.ofText?_of_isText hsrc,
      Address.ofText?_of_isText hdst⟩

/-- **A request is accepted for its amount and for what its texts spell.** -/
theorem check_eq_ok_iff : check pair src dst amountIn = .ok request ↔
    0 < amountIn ∧ Spells pair src dst request ∧ request.src ≠ request.dst ∧
      request.amountIn = amountIn := by
  rw [check_eq, ruling_eq_ok_iff, faults_none_iff, spells_iff]
  constructor
  · rintro ⟨⟨hamount, hpair, hsrc, hdst, hne⟩, rfl⟩
    exact ⟨hamount, ⟨hpair, hsrc, hdst, rfl⟩, hne, rfl⟩
  · rintro ⟨hamount, ⟨hpair, hsrc, hdst, hrequest⟩, hne, rfl⟩
    rw [← hrequest] at hne
    exact ⟨⟨hamount, hpair, hsrc, hdst, hne⟩, hrequest⟩

/-! ## Other texts of the same request -/

/-- Texts with the same letters spell the same. -/
theorem spells_of_sameLetters (hpair : Text.sameLetters pair pair' = true)
    (hsrc : Text.sameLetters src src' = true) (hdst : Text.sameLetters dst dst' = true) :
    Spells pair src dst request ↔ Spells pair' src' dst' request := by
  have hpair := Address.ofText?_of_sameLetters hpair
  have hsrc := Address.ofText?_of_sameLetters hsrc
  have hdst := Address.ofText?_of_sameLetters hdst
  constructor
  · rintro ⟨h, h', h''⟩
    exact ⟨hpair ▸ h, hsrc ▸ h', hdst ▸ h''⟩
  · rintro ⟨h, h', h''⟩
    exact ⟨hpair ▸ h, hsrc ▸ h', hdst ▸ h''⟩

/-- A request is spelled out by the texts that its addresses are written with. -/
theorem spells_text (request : QuoteRequest) :
    Spells request.pair.text request.src.text request.dst.text request :=
  ⟨Address.ofText?_text _, Address.ofText?_text _, Address.ofText?_text _⟩

/-! ## The check -/

/-- What it means that a request given as texts is checked exactly. -/
structure CheckedExactly (pair src dst : String) (amountIn : Nat) : Prop where
  /-- It is accepted for a positive amount, the texts of three addresses, and tokens of which the
  bytes differ. -/
  accepted_iff : (∃ request, check pair src dst amountIn = .ok request) ↔
    0 < amountIn ∧ Address.IsText pair ∧ Address.IsText src ∧ Address.IsText dst ∧
      (Address.inText src).bytes ≠ (Address.inText dst).bytes
  /-- The accepted request carries what the texts are read as, and the amount. -/
  carries : ∀ request, check pair src dst amountIn = .ok request →
    Spells pair src dst request ∧ request.amountIn = amountIn
  /-- A refusal tells the first fault. -/
  refused_iff : ∀ e, check pair src dst amountIn = .error e ↔
    ∃ cause, (faults pair src dst amountIn).findSome? id = some cause ∧ e = .invalidRequest cause
  /-- The case of the letters does not matter to what is accepted. -/
  recased : ∀ pair' src' dst', Text.sameLetters pair pair' = true →
    Text.sameLetters src src' = true → Text.sameLetters dst dst' = true → ∀ request,
      (check pair src dst amountIn = .ok request ↔ check pair' src' dst' amountIn = .ok request)
  /-- The accepted request is accepted again as it is written. -/
  rewritten : ∀ request, check pair src dst amountIn = .ok request →
    check request.pair.text request.src.text request.dst.text request.amountIn = .ok request

/-- **Requests are checked exactly**, whatever the texts and the amount. -/
theorem checkedExactly (pair src dst : String) (amountIn : Nat) :
    CheckedExactly pair src dst amountIn where
  accepted_iff := by
    have hbytes : (Address.inText src).bytes ≠ (Address.inText dst).bytes ↔
        Address.inText src ≠ Address.inText dst :=
      not_congr ⟨Address.bytes_inj, congrArg Address.bytes⟩
    rw [hbytes, ← faults_none_iff]
    simp only [check_eq, ruling_eq_ok_iff, exists_and_left, exists_eq', and_true]
  carries request h := by
    obtain ⟨-, hspells, -, hamount⟩ := check_eq_ok_iff.mp h
    exact ⟨hspells, hamount⟩
  refused_iff e := by
    rw [check_eq]
    exact ruling_eq_error_iff
  recased pair' src' dst' hpair hsrc hdst request := by
    rw [check_eq_ok_iff, check_eq_ok_iff, spells_of_sameLetters hpair hsrc hdst]
  rewritten request h := by
    obtain ⟨hamount, -, hne, rfl⟩ := check_eq_ok_iff.mp h
    exact check_eq_ok_iff.mpr ⟨hamount, spells_text request, hne, rfl⟩

/-- Two spellings of one token are at fault as the same token. -/
example :
    check "0xb4e16d0168e52d35cacd2c6185b44281ec28c9dc"
        "0xC02aaA39b223FE8D0A0e5C4F27eAD9083C756Cc2"
        "0XC02AAA39B223FE8D0A0E5C4F27EAD9083C756CC2" 1 =
      .error (.invalidRequest "source and destination tokens cannot be the same") := by cbv

end PairQuote.QuoteRequest
