import PairQuote.Proofs.Quote.Calls

/-! # Sessions at a desk

A **session** is any row of events at one desk: requests, in either form, and changes that
others make to the chain.  The desk carries everything from one event to the next — the
chain, the calls made so far and the scratch integers.

`Served` cuts the calls of a session into one **segment** for each event: a request has the
calls that are coherent with what the chain answers at that moment, a change and an
unacceptable request have none.  Every session is served so, and its calls are its segments
one after the other.
-/
namespace PairQuote

/-- What can happen at a desk. -/
inductive Event (σ : Type) where
  | quote (request : QuoteRequest)
  | estimate (pair src dst : String) (amountIn : Nat)
  /-- Others change the chain. -/
  | change (f : σ → σ)

variable {σ : Type}

namespace Event

/-- The chain that an event meets. -/
def meets : Event σ → Observed σ → Observed σ
  | .change f, observed => { observed with chain := f observed.chain }
  | _, observed => observed

end Event

namespace Desk
variable (source : ChainSource σ)

/-- Serves an event; a request also has a result. -/
def serve (desk : Desk σ) : Event σ → Option (Except Refusal Nat) × Desk σ
  | .quote request => Prod.map some id ((quote source request).run desk)
  | .estimate pair src dst amountIn =>
    Prod.map some id ((estimate source pair src dst amountIn).run desk)
  | .change f => (none, { desk with observed := (Event.change f).meets desk.observed })

/-- The desk after a session. -/
def session (desk : Desk σ) (events : List (Event σ)) : Desk σ :=
  events.foldl (fun desk event => (desk.serve source event).2) desk

end Desk

variable {source : ChainSource σ}

/-- The calls of one event. -/
def Event.Made (source : ChainSource σ) (desk : Desk σ) (made : List Call) : Event σ → Prop
  | .quote request =>
    (source.answers request.pair desk.observed.chain).Coherent request.pair
      ((PairQuote.quote source request).run desk).1 made
  | .estimate pair src dst amountIn =>
    match QuoteRequest.check pair src dst amountIn with
    | .error _ => made = []
    | .ok request =>
      (source.answers request.pair desk.observed.chain).Coherent request.pair
        ((PairQuote.estimate source pair src dst amountIn).run desk).1 made
  | .change _ => made = []

/-- A session with the calls of each of its events. -/
inductive Served (source : ChainSource σ) :
    Desk σ → List (Event σ) → List (List Call) → Desk σ → Prop
  | nil {desk : Desk σ} : Served source desk [] [] desk
  | cons {desk final : Desk σ} {event : Event σ} {events : List (Event σ)} {made : List Call}
      {segments : List (List Call)} (calls : event.Made source desk made)
      (nothingElse : (desk.serve source event).2.observed =
        source.observe made (event.meets desk.observed))
      (rest : Served source (desk.serve source event).2 events segments final) :
    Served source desk (event :: events) (made :: segments) final

theorem quote_made (source : ChainSource σ) (request : QuoteRequest) (desk : Desk σ) :
    ∃ made, ((quote source request).run desk).2.observed = source.observe made desk.observed ∧
      (source.answers request.pair desk.observed.chain).Coherent request.pair
        ((quote source request).run desk).1 made := by
  rw [quote_run]
  exact ⟨_, rfl, Answers.coherent request _⟩

/-- Every event makes its calls and no others. -/
theorem Desk.serve_made (source : ChainSource σ) (desk : Desk σ) (event : Event σ) :
    ∃ made, event.Made source desk made ∧
      (desk.serve source event).2.observed =
        source.observe made (event.meets desk.observed) := by
  cases event with
  | quote request =>
    obtain ⟨made, hobserved, hcoherent⟩ := quote_made source request desk
    exact ⟨made, hcoherent, hobserved⟩
  | estimate pair src dst amountIn =>
    simp only [Event.Made, serve, Prod.map_snd, id]
    cases h : QuoteRequest.check pair src dst amountIn with
    | error e =>
      rw [estimate_run_error h]
      exact ⟨[], rfl, (source.observe_nil _).symm⟩
    | ok request =>
      rw [estimate_run_ok h]
      obtain ⟨made, hobserved, hcoherent⟩ := quote_made source request desk
      exact ⟨made, hcoherent, hobserved⟩
  | change f => exact ⟨[], rfl, (source.observe_nil _).symm⟩

/-- Every session is served. -/
theorem Desk.session_served (source : ChainSource σ) (desk : Desk σ) (events : List (Event σ)) :
    ∃ segments, Served source desk events segments (desk.session source events) := by
  induction events generalizing desk with
  | nil => exact ⟨[], .nil⟩
  | cons event events ih =>
    obtain ⟨made, hmade, hobserved⟩ := desk.serve_made source event
    obtain ⟨segments, hserved⟩ := ih (desk.serve source event).2
    exact ⟨made :: segments, .cons hmade hobserved hserved⟩

/-- The calls of a session are its segments in turn. -/
theorem Served.calls_eq {desk final : Desk σ} {events : List (Event σ)}
    {segments : List (List Call)} (served : Served source desk events segments final) :
    final.observed.calls = desk.observed.calls ++ segments.flatten := by
  induction served with
  | nil => rw [List.flatten_nil, List.append_nil]
  | @cons desk final event events made segments calls nothingElse rest ih =>
    have hcalls : (event.meets desk.observed).calls = desk.observed.calls := by
      cases event <;> rfl
    rw [ih, nothingElse, ChainSource.observe, hcalls, List.flatten_cons, List.append_assoc]

/-- **The calls of quotes.**  At every desk a quote makes coherent calls and no others; a
request given as texts makes none if it is not acceptable, and otherwise does what its
quote does; and over every session, whatever others do to the chain in between, the calls
are one such segment after the other. -/
theorem calls_of_quotes (source : ChainSource σ) (desk : Desk σ) :
    (∀ request, ∃ made,
      ((quote source request).run desk).2.observed = source.observe made desk.observed ∧
      (source.answers request.pair desk.observed.chain).Coherent request.pair
        ((quote source request).run desk).1 made) ∧
    (∀ pair src dst amountIn, (estimate source pair src dst amountIn).run desk =
      match QuoteRequest.check pair src dst amountIn with
      | .error e => (.error e, desk)
      | .ok request => (quote source request).run desk) ∧
    ∀ events, ∃ segments, Served source desk events segments (desk.session source events) ∧
      (desk.session source events).observed.calls =
        desk.observed.calls ++ segments.flatten := by
  refine ⟨fun request => quote_made source request desk, ?_, ?_⟩
  · intro pair src dst amountIn
    cases h : QuoteRequest.check pair src dst amountIn with
    | error e => exact estimate_run_error h desk
    | ok request => exact estimate_run_ok h desk
  · intro events
    obtain ⟨segments, hserved⟩ := desk.session_served source events
    exact ⟨segments, hserved, hserved.calls_eq⟩

end PairQuote
