import PairQuote.Chain.Table
import PairQuote.Proofs.Quote.Session
import PairQuote.Proofs.ScratchPool.Computation

/-! # What a session leaves in the pool

A request works on the scratch integers only if it is priced, and then it makes one
computation with the preset fee.  Whatever else happens at a desk — a refusal, at any of the
places where a quote can end, or a change of the chain — leaves the pool as it is
(`Desk.poolUse_serve`).

So after a session the pool is that of as many computations as requests were priced, in
whatever order these came among the others (`Desk.scratch_session`), and its figures follow
from the effect of a computation.
-/
namespace PairQuote

open ScratchPool (computing demand)

variable {σ : Type} {source : ChainSource σ}

namespace Answers
variable {request : QuoteRequest} {a : Answers} {p : ScratchPool}

/-- A refusal needs no scratch integers. -/
theorem scratch_of_error {refusal : Refusal} (h : a.outcome request = .error refusal) :
    a.scratch request p = p := by
  unfold scratch
  rw [h]

/-- A price needs one computation. -/
theorem scratch_of_ok {amount : Nat} (h : a.outcome request = .ok amount) :
    a.scratch request p = p.after (computing Fee.percent030) := by
  unfold scratch
  rw [h]
  exact ScratchPool.amountOut_run_snd _ _ _ _ p

end Answers

/-! ## One event -/

namespace Desk
variable {pair src dst : String} {amountIn : Nat}

/-- An unacceptable request changes nothing. -/
theorem serve_estimate_of_error {refusal : Refusal}
    (h : QuoteRequest.check pair src dst amountIn = .error refusal) (desk : Desk σ) :
    desk.serve source (.estimate pair src dst amountIn) = (some (.error refusal), desk) :=
  congrArg (Prod.map some id) (estimate_run_error h desk)

/-- An acceptable request given as texts is served as its quote. -/
theorem serve_estimate_of_ok {request : QuoteRequest}
    (h : QuoteRequest.check pair src dst amountIn = .ok request) (desk : Desk σ) :
    desk.serve source (.estimate pair src dst amountIn) = desk.serve source (.quote request) :=
  congrArg (Prod.map some id) (estimate_run_ok h desk)

/-- A quote is told what its answers decide, and works on the pool accordingly. -/
theorem serve_quote (source : ChainSource σ) (desk : Desk σ) (request : QuoteRequest) :
    desk.serve source (.quote request) =
      (some ((source.answers request.pair desk.observed.chain).outcome request),
        { observed := source.observe
            ((source.answers request.pair desk.observed.chain).calls request.pair) desk.observed
          scratch :=
            (source.answers request.pair desk.observed.chain).scratch request desk.scratch }) :=
  congrArg (Prod.map some id) (quote_run source request desk)

/-- What a reply has to do with the pool before and after its event. -/
inductive PoolUse (p : ScratchPool) : Option (Except Refusal Nat) → ScratchPool → Prop where
  /-- A price takes one computation. -/
  | priced (amount : Nat) : PoolUse p (some (.ok amount)) (p.after (computing Fee.percent030))
  /-- A refusal takes nothing. -/
  | refused (refusal : Refusal) : PoolUse p (some (.error refusal)) p
  /-- Nor does an event without a reply. -/
  | silent : PoolUse p none p

/-- The pool has made one computation for each price. -/
theorem PoolUse.after_eq {p p' : ScratchPool} {reply : Option (Except Refusal Nat)}
    (h : PoolUse p reply p') : p' = p.after
      (List.replicate (reply.toList.countP (·.isOk)) (computing Fee.percent030)).flatten := by
  cases h with
  | priced amount => exact congrArg p.after (List.append_nil _).symm
  | refused refusal => rfl
  | silent => rfl

theorem poolUse_quote (source : ChainSource σ) (desk : Desk σ) (request : QuoteRequest) :
    PoolUse desk.scratch (desk.serve source (.quote request)).1
      (desk.serve source (.quote request)).2.scratch := by
  rw [serve_quote]
  dsimp only
  cases h : (source.answers request.pair desk.observed.chain).outcome request with
  | ok amount =>
    rw [Answers.scratch_of_ok h]
    exact .priced amount
  | error refusal =>
    rw [Answers.scratch_of_error h]
    exact .refused refusal

/-- **An event is a priced request, with one computation, or leaves the pool alone.** -/
theorem poolUse_serve (source : ChainSource σ) (desk : Desk σ) (event : Event σ) :
    PoolUse desk.scratch (desk.serve source event).1 (desk.serve source event).2.scratch := by
  cases event with
  | quote request => exact poolUse_quote source desk request
  | estimate pair src dst amountIn =>
    cases hcheck : QuoteRequest.check pair src dst amountIn with
    | error refusal =>
      rw [serve_estimate_of_error hcheck]
      exact .refused refusal
    | ok request =>
      rw [serve_estimate_of_ok hcheck]
      exact poolUse_quote source desk request
  | change f => exact .silent

end Desk

/-! ## A session -/

namespace Desk

/-- A desk over a pool that was never used. -/
def new (observed : Observed σ) (capacity : Nat) : Desk σ := ⟨observed, ScratchPool.new capacity⟩

/-- What the requests of a session are told, in turn. -/
def replies (source : ChainSource σ) (desk : Desk σ) :
    List (Event σ) → List (Except Refusal Nat)
  | [] => []
  | event :: events =>
    (desk.serve source event).1.toList ++ replies source (desk.serve source event).2 events

/-- How many requests of a session are priced. -/
def priced (source : ChainSource σ) (desk : Desk σ) (events : List (Event σ)) : Nat :=
  (desk.replies source events).countP (·.isOk)

theorem priced_cons (desk : Desk σ) (event : Event σ) (events : List (Event σ)) :
    desk.priced source (event :: events) =
      (desk.serve source event).1.toList.countP (·.isOk) +
        (desk.serve source event).2.priced source events :=
  List.countP_append

/-- **The pool after a session is that of its priced requests.** -/
theorem scratch_session (source : ChainSource σ) (desk : Desk σ) (events : List (Event σ)) :
    (desk.session source events).scratch =
      desk.scratch.after
        (List.replicate (desk.priced source events) (computing Fee.percent030)).flatten := by
  induction events generalizing desk with
  | nil => rfl
  | cons event events ih =>
    change ((desk.serve source event).2.session source events).scratch = _
    rw [ih, priced_cons]
    rw [(poolUse_serve source desk event).after_eq, ← ScratchPool.after_append,
      ← List.flatten_append, ← List.replicate_append_replicate]

end Desk

/-- **Scratch integers are reused.**  At every desk a request that ends in a refusal leaves
the pool exactly as it was.  Over a pool that was never used, the figures after a session
follow from the number of priced requests alone, whatever was refused and whatever others
did to the chain in between. -/
theorem figures_of_session (source : ChainSource σ) (observed : Observed σ) (capacity : Nat) :
    (∀ (desk : Desk σ) (event : Event σ) (refusal : Refusal),
      (desk.serve source event).1 = some (.error refusal) →
        (desk.serve source event).2.scratch = desk.scratch) ∧
    ∀ (events : List (Event σ)) (n : Nat),
      (Desk.new observed capacity).priced source events = n → 1 ≤ n →
        ((Desk.new observed capacity).session source events).scratch.figures =
          { releases := 3 * n
            available := min 3 capacity
            hits := (n - 1) * min 3 capacity
            misses := 3 + (n - 1) * (3 - min 3 capacity) } := by
  constructor
  · intro desk event refusal htold
    have huse := desk.poolUse_serve source event
    rw [htold] at huse
    generalize (desk.serve source event).2.scratch = pool at huse ⊢
    cases huse
    rfl
  · intro events n hpriced hpos
    obtain ⟨m, rfl⟩ : ∃ m, n = m + 1 := ⟨n - 1, by omega⟩
    have hfigures := ScratchPool.figures_computings capacity m Fee.percent030
    have hdemand : demand Fee.percent030 = 3 := rfl
    rw [hdemand, Nat.mul_comm (m + 1) 3] at hfigures
    rw [Desk.scratch_session, hpriced, Nat.add_sub_cancel]
    exact hfigures

/-- A pair that holds five thousand of either token. -/
def evenPair : TableChain where
  slots := [((⟨1⟩, 6), .ofNat 2), ((⟨1⟩, 7), .ofNat 3), ((⟨1⟩, 8), .ofNat (5000 * 2 ^ 112 + 5000))]

/-- Two requests are priced; the others are refused by the chain, for the amount and for
the tokens. -/
def mixedEvents : List (Event TableChain) :=
  [.quote ⟨⟨1⟩, ⟨2⟩, ⟨3⟩, 1000⟩, .change (TableChain.fail (.slot 8) "down"),
    .quote ⟨⟨1⟩, ⟨2⟩, ⟨3⟩, 1000⟩, .estimate "" "" "" 0, .change TableChain.heal,
    .quote ⟨⟨1⟩, ⟨2⟩, ⟨2⟩, 1000⟩, .quote ⟨⟨1⟩, ⟨3⟩, ⟨2⟩, 1000⟩]

/-- On a list for two integers every price but the first makes one anew. -/
theorem figures_of_session_of_mixed_events :
    ((Desk.new ⟨evenPair, []⟩ 2).serve TableChain.source (.quote ⟨⟨1⟩, ⟨2⟩, ⟨2⟩, 1000⟩)).1 =
        some (.error (.tokenMismatch ⟨2⟩ ⟨2⟩ ⟨2⟩ ⟨3⟩)) ∧
      ((Desk.new ⟨evenPair, []⟩ 2).serve TableChain.source
        (.quote ⟨⟨1⟩, ⟨2⟩, ⟨2⟩, 1000⟩)).2.scratch = ScratchPool.new 2 ∧
      (Desk.new ⟨evenPair, []⟩ 2).priced TableChain.source mixedEvents = 2 ∧
      ((Desk.new ⟨evenPair, []⟩ 2).session TableChain.source mixedEvents).scratch.figures =
        { releases := 6, available := 2, hits := 2, misses := 4 } := by
  have htold : ((Desk.new ⟨evenPair, []⟩ 2).serve TableChain.source
      (.quote ⟨⟨1⟩, ⟨2⟩, ⟨2⟩, 1000⟩)).1 =
        some (.error (.tokenMismatch ⟨2⟩ ⟨2⟩ ⟨2⟩ ⟨3⟩)) := rfl
  have hpriced : (Desk.new ⟨evenPair, []⟩ 2).priced TableChain.source mixedEvents = 2 := by
    decide +kernel
  obtain ⟨hrefused, hfigures⟩ := figures_of_session TableChain.source ⟨evenPair, []⟩ 2
  exact ⟨htold, hrefused _ _ _ htold, hpriced, hfigures mixedEvents 2 hpriced (by decide)⟩

end PairQuote
