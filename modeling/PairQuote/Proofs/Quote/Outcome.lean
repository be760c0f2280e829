import PairQuote.Proofs.Quote.Run

/-! # What a request is told

The outcome of a quote is the first hindrance that applies, in the order of
`Answers.hindrances`, and the price in closed form if none does.  The desk may be in any
state: whatever was asked before, whatever the scratch integers hold, and however the
chain moves between the calls.

A refusal is worth a second try only if the chain failed.  Such a refusal is given exactly
when one of the calls that the quote makes fails (`Answers.CallFails`); the slot of the
reserves is asked for only when both tokens are there.
-/
namespace PairQuote

namespace Answers

/-- One of the calls that are made fails. -/
def CallFails (a : Answers) : Prop :=
  (∃ text, a.head = .error text) ∨ (∃ text, a.token0 = .error text) ∨
    (∃ text, a.token1 = .error text) ∨ ¬a.NoToken ∧ ∃ text, a.reserves = .error text

/-- The chain is blamed exactly when a call fails. -/
theorem outcome_chainUnavailable_iff (request : QuoteRequest) (a : Answers) :
    (∃ text, a.outcome request = .error (.chainUnavailable text)) ↔ a.CallFails := by
  have exit := a.exit request
  generalize a.outcome request = result at exit ⊢
  generalize a.reached = made at exit
  constructor
  · rintro ⟨text, rfl⟩
    cases exit with
    | head head => exact .inl ⟨text, head⟩
    | token0 _ token0 => exact .inr (.inl ⟨text, token0⟩)
    | token1 _ _ token1 => exact .inr (.inr (.inl ⟨text, token1⟩))
    | reserves _ _ _ tokens reserves => exact .inr (.inr (.inr ⟨tokens, text, reserves⟩))
  · -- a call that fails rules out every way to end that comes later
    rintro (⟨text, h⟩ | ⟨text, h⟩ | ⟨text, h⟩ | ⟨tokens, text, h⟩) <;> cases exit <;> simp_all

end Answers

namespace Refusal

/-- Only a failure of the chain is worth another try. -/
theorem isRetryable_iff (refusal : Refusal) :
    refusal.isRetryable = true ↔ ∃ text, refusal = .chainUnavailable text := by
  cases refusal <;> simp [isRetryable]

end Refusal

/-- Judgements in a row are refused by the first one or by what follows it. -/
theorem bind_eq_error {α β : Type} {first : Except Refusal α} {next : α → Except Refusal β}
    {e : Refusal} (h : first >>= next = .error e) :
    first = .error e ∨ ∃ a, first = .ok a ∧ next a = .error e := by
  cases first with
  | error e' => exact .inl (congrArg Except.error (Except.error.inj h))
  | ok a => exact .inr ⟨a, rfl, h⟩

/-- A field that holds no address makes the request unacceptable. -/
theorem Address.ofField_error {field text : String} {e : Refusal}
    (h : Address.ofField field text = .error e) : ∃ cause, e = .invalidRequest cause := by
  unfold Address.ofField at h
  split at h
  · cases h
  · cases h
    exact ⟨_, rfl⟩

/-- A request is refused before any call only for being unacceptable. -/
theorem QuoteRequest.check_error {pair src dst : String} {amountIn : Nat} {e : Refusal}
    (h : QuoteRequest.check pair src dst amountIn = .error e) :
    ∃ cause, e = .invalidRequest cause := by
  unfold QuoteRequest.check at h
  split at h
  · cases h
    exact ⟨_, rfl⟩
  rcases bind_eq_error h with h | ⟨pair, -, h⟩
  · exact Address.ofField_error h
  rcases bind_eq_error h with h | ⟨src, -, h⟩
  · exact Address.ofField_error h
  rcases bind_eq_error h with h | ⟨dst, -, h⟩
  · exact Address.ofField_error h
  dsimp only at h
  split at h
  · cases h
    exact ⟨_, rfl⟩
  · cases h

variable {σ : Type}

/-- **The outcome of a quote.**  On every chain and at every desk: the first hindrance that
applies, or else the price; a request given as texts is checked first; and the only refusal
worth another try is given exactly when a call of the quote fails. -/
theorem quote_outcome (source : ChainSource σ) (desk : Desk σ) :
    (∀ request, ((quote source request).run desk).1 =
      (source.answers request.pair desk.observed.chain).outcome request) ∧
    (∀ pair src dst amountIn, ((estimate source pair src dst amountIn).run desk).1 = do
      let request ← QuoteRequest.check pair src dst amountIn
      (source.answers request.pair desk.observed.chain).outcome request) ∧
    (∀ refusal : Refusal,
      refusal.isRetryable = true ↔ ∃ text, refusal = .chainUnavailable text) ∧
    (∀ request,
      (∃ text, ((quote source request).run desk).1 = .error (.chainUnavailable text)) ↔
        (source.answers request.pair desk.observed.chain).CallFails) ∧
    ∀ pair src dst amountIn,
      (∃ text, ((estimate source pair src dst amountIn).run desk).1 =
          .error (.chainUnavailable text)) ↔
        ∃ request, QuoteRequest.check pair src dst amountIn = .ok request ∧
          (source.answers request.pair desk.observed.chain).CallFails := by
  have told : ∀ request, ((quote source request).run desk).1 =
      (source.answers request.pair desk.observed.chain).outcome request :=
    fun request => congrArg Prod.fst (quote_run source request desk)
  refine ⟨told, ?_, Refusal.isRetryable_iff, ?_, ?_⟩
  · intro pair src dst amountIn
    cases h : QuoteRequest.check pair src dst amountIn with
    | error e => rw [estimate_run_error h]; rfl
    | ok request => rw [estimate_run_ok h, told]; rfl
  · intro request
    rw [told, Answers.outcome_chainUnavailable_iff]
  · intro pair src dst amountIn
    cases h : QuoteRequest.check pair src dst amountIn with
    | error e =>
      obtain ⟨cause, rfl⟩ := QuoteRequest.check_error h
      rw [estimate_run_error h]
      simp
    | ok request =>
      rw [estimate_run_ok h, told, Answers.outcome_chainUnavailable_iff]
      simp

end PairQuote
