import PairQuote.Proofs.Pair.Symmetry
import PairQuote.Proofs.Quote.Answers

/-! # What a quote does

The one place where the definition of `quote` is opened.  Each part of it has its equation
— asking for the head, reading the tokens, reading the reserves, ordering them, pricing —
and `quote_run` puts them together: result, chain, calls and scratch integers of a quote
are those that its `Answers` fix.
-/
namespace PairQuote

section Work
variable {s α β : Type} {work : ExceptT Refusal (StateM s) α}
  {next : α → ExceptT Refusal (StateM s) β} {state state' : s}

/-- Work goes on after a success, from the state it left. -/
theorem run_bind_of_ok {a : α} (h : work.run state = (.ok a, state')) :
    (work >>= next).run state = (next a).run state' := by
  change ExceptT.bindCont next (work.run state).1 (work.run state).2 = _
  rw [h]
  rfl

/-- Work ends with a refusal. -/
theorem run_bind_of_error {e : Refusal} (h : work.run state = (.error e, state')) :
    (work >>= next).run state = (.error e, state') := by
  change ExceptT.bindCont next (work.run state).1 (work.run state).2 = _
  rw [h]
  rfl

/-- A judgement without effects changes nothing. -/
theorem run_lift {verdict : Except Refusal α} :
    (liftM verdict : ExceptT Refusal (StateM s) α).run state = (verdict, state) := rfl

/-- A check refuses exactly when its condition holds; a refusal changes nothing. -/
theorem run_check {c : Prop} [Decidable c] {e : Refusal}
    {next : Unit → ExceptT Refusal (StateM s) β} :
    (if c then throw e >>= next else next ()).run state =
      if c then (.error e, state) else (next ()).run state := by
  split <;> rfl

end Work

variable {σ : Type} {source : ChainSource σ} {pair : Address} {block slot : UInt64}
  {observed : Observed σ}

/-! ## The calls -/

namespace ChainSource

theorem latestBlock_run (source : ChainSource σ) (observed : Observed σ) :
    source.latestBlock.run observed =
      ((source.latest observed.chain).1.mapError .chainUnavailable,
        source.observe [.latest] observed) := rfl

theorem readSlot_run_ok {word : Word}
    (h : (source.read pair slot block observed.chain).1 = .ok word) :
    (source.readSlot pair slot block).run observed =
      (.ok word, source.observe [.read pair slot block] observed) := by
  change ((source.read pair slot block observed.chain).1.mapError Refusal.chainUnavailable, _) = _
  rw [h]
  rfl

theorem readSlot_run_error {text : String}
    (h : (source.read pair slot block observed.chain).1 = .error text) :
    (source.readSlot pair slot block).run observed =
      (.error (.chainUnavailable text), source.observe [.read pair slot block] observed) := by
  change ((source.read pair slot block observed.chain).1.mapError Refusal.chainUnavailable, _) = _
  rw [h]
  rfl

end ChainSource

/-! ## The tokens and the reserves -/

namespace Pair
variable {word word0 word1 : Word} {text : String}

/-- The first token slot cannot be read. -/
theorem tokens_run_error0
    (h : (source.read pair 6 block observed.chain).1 = .error text) :
    (tokens source pair block).run observed =
      (.error (.chainUnavailable text), source.observe [.read pair 6 block] observed) :=
  run_bind_of_error (ChainSource.readSlot_run_error h)

/-- The second token slot cannot be read. -/
theorem tokens_run_error1
    (h0 : (source.read pair 6 block observed.chain).1 = .ok word0)
    (h1 : (source.read pair 7 block (source.after observed.chain (.read pair 6 block))).1 =
      .error text) :
    (tokens source pair block).run observed =
      (.error (.chainUnavailable text),
        source.observe [.read pair 6 block, .read pair 7 block] observed) := by
  refine (run_bind_of_ok (ChainSource.readSlot_run_ok h0)).trans ?_
  refine (run_bind_of_error (ChainSource.readSlot_run_error h1)).trans ?_
  rw [← source.observe_append]
  rfl

/-- Both token slots are read before either is judged. -/
theorem tokens_run
    (h0 : (source.read pair 6 block observed.chain).1 = .ok word0)
    (h1 : (source.read pair 7 block (source.after observed.chain (.read pair 6 block))).1 =
      .ok word1) :
    (tokens source pair block).run observed =
      (if word0.part 0 160 = 0 ∨ word1.part 0 160 = 0 then .error (.noPair pair block)
        else .ok (Address.ofWord word0, Address.ofWord word1),
        source.observe [.read pair 6 block, .read pair 7 block] observed) := by
  refine (run_bind_of_ok (ChainSource.readSlot_run_ok h0)).trans ?_
  refine (run_bind_of_ok (ChainSource.readSlot_run_ok h1)).trans ?_
  refine run_check.trans ?_
  rw [← source.observe_append]
  simp only [Address.ofWord_eq_zero_iff]
  split <;> rfl

theorem reserves_run_error
    (h : (source.read pair 8 block observed.chain).1 = .error text) :
    (reserves source pair block).run observed =
      (.error (.chainUnavailable text), source.observe [.read pair 8 block] observed) :=
  run_bind_of_error (ChainSource.readSlot_run_error h)

theorem reserves_run (h : (source.read pair 8 block observed.chain).1 = .ok word) :
    (reserves source pair block).run observed =
      (if word.part 0 112 = 0 ∨ word.part 112 112 = 0 then .error (.emptyReserves pair block)
        else .ok (Reserves.ofWord word), source.observe [.read pair 8 block] observed) := by
  refine (run_bind_of_ok (ChainSource.readSlot_run_ok h)).trans ?_
  refine run_check.trans ?_
  simp only [Reserves.hasEmptySide_iff]
  split <;> rfl

end Pair

/-! ## The steps of a quote, by its answers -/

namespace Desk

/-- A desk after several more calls to its chain. -/
def after (source : ChainSource σ) (calls : List Call) (desk : Desk σ) : Desk σ :=
  { desk with observed := source.observe calls desk.observed }

theorem after_append (first second : List Call) (desk : Desk σ) :
    desk.after source (first ++ second) = (desk.after source first).after source second := by
  rw [after, source.observe_append]
  rfl

theorem onChain_run {α : Type} {work : ChainM σ α} {desk : Desk σ} {calls : List Call}
    {result : Except Refusal α}
    (h : work.run desk.observed = (result, source.observe calls desk.observed)) :
    (onChain work).run desk = (result, desk.after source calls) := by
  change ((work.run desk.observed).1,
    { desk with observed := (work.run desk.observed).2 }) = _
  rw [h]
  rfl

/-- The calls of a part come after those already made. -/
theorem onChain_run_after {α : Type} {work : ChainM σ α} {desk : Desk σ}
    {made calls : List Call} {result : Except Refusal α}
    (h : work.run (desk.after source made).observed =
      (result, source.observe calls (desk.after source made).observed)) :
    (onChain work).run (desk.after source made) =
      (result, desk.after source (made ++ calls)) := by
  rw [onChain_run h, after_append]

variable {desk : Desk σ} {text : String} {word0 word1 word : Word}

theorem latestBlock_run_ok
    (head : (source.answers pair desk.observed.chain).head = .ok block) :
    (onChain source.latestBlock).run desk = (.ok block, desk.after source [.latest]) := by
  change (source.latest desk.observed.chain).1 = _ at head
  rw [onChain_run (source.latestBlock_run desk.observed), head]
  rfl

theorem latestBlock_run_error
    (head : (source.answers pair desk.observed.chain).head = .error text) :
    (onChain source.latestBlock).run desk =
      (.error (.chainUnavailable text), desk.after source [.latest]) := by
  change (source.latest desk.observed.chain).1 = _ at head
  rw [onChain_run (source.latestBlock_run desk.observed), head]
  rfl

theorem tokens_run_error0
    (head : (source.answers pair desk.observed.chain).head = .ok block)
    (token0 : (source.answers pair desk.observed.chain).token0 = .error text) :
    (onChain (Pair.tokens source pair block)).run (desk.after source [.latest]) =
      (.error (.chainUnavailable text),
        desk.after source [.latest, .read pair 6 block]) := by
  rw [ChainSource.answers_token0 head] at token0
  exact onChain_run_after (Pair.tokens_run_error0 token0)

theorem tokens_run_error1
    (head : (source.answers pair desk.observed.chain).head = .ok block)
    (token0 : (source.answers pair desk.observed.chain).token0 = .ok word0)
    (token1 : (source.answers pair desk.observed.chain).token1 = .error text) :
    (onChain (Pair.tokens source pair block)).run (desk.after source [.latest]) =
      (.error (.chainUnavailable text),
        desk.after source [.latest, .read pair 6 block, .read pair 7 block]) := by
  rw [ChainSource.answers_token0 head] at token0
  rw [ChainSource.answers_token1 head] at token1
  exact onChain_run_after (Pair.tokens_run_error1 token0 token1)

theorem tokens_run
    (head : (source.answers pair desk.observed.chain).head = .ok block)
    (token0 : (source.answers pair desk.observed.chain).token0 = .ok word0)
    (token1 : (source.answers pair desk.observed.chain).token1 = .ok word1) :
    (onChain (Pair.tokens source pair block)).run (desk.after source [.latest]) =
      (if (source.answers pair desk.observed.chain).NoToken then .error (.noPair pair block)
        else .ok (Answers.token (source.answers pair desk.observed.chain).token0,
          Answers.token (source.answers pair desk.observed.chain).token1),
        desk.after source [.latest, .read pair 6 block, .read pair 7 block]) := by
  simp only [Answers.noToken_iff token0 token1, Answers.token_of_ok token0,
    Answers.token_of_ok token1]
  rw [ChainSource.answers_token0 head] at token0
  rw [ChainSource.answers_token1 head] at token1
  exact onChain_run_after (Pair.tokens_run token0 token1)

theorem tokens_run_noToken
    (head : (source.answers pair desk.observed.chain).head = .ok block)
    (token0 : (source.answers pair desk.observed.chain).token0 = .ok word0)
    (token1 : (source.answers pair desk.observed.chain).token1 = .ok word1)
    (empty : (source.answers pair desk.observed.chain).NoToken) :
    (onChain (Pair.tokens source pair block)).run (desk.after source [.latest]) =
      (.error (.noPair pair block),
        desk.after source [.latest, .read pair 6 block, .read pair 7 block]) := by
  rw [tokens_run head token0 token1, if_pos empty]

theorem tokens_run_ok
    (head : (source.answers pair desk.observed.chain).head = .ok block)
    (token0 : (source.answers pair desk.observed.chain).token0 = .ok word0)
    (token1 : (source.answers pair desk.observed.chain).token1 = .ok word1)
    (tokens : ¬(source.answers pair desk.observed.chain).NoToken) :
    (onChain (Pair.tokens source pair block)).run (desk.after source [.latest]) =
      (.ok (Answers.token (source.answers pair desk.observed.chain).token0,
          Answers.token (source.answers pair desk.observed.chain).token1),
        desk.after source [.latest, .read pair 6 block, .read pair 7 block]) := by
  rw [tokens_run head token0 token1, if_neg tokens]

theorem reserves_run_error
    (head : (source.answers pair desk.observed.chain).head = .ok block)
    (reserves : (source.answers pair desk.observed.chain).reserves = .error text) :
    (onChain (Pair.reserves source pair block)).run
        (desk.after source [.latest, .read pair 6 block, .read pair 7 block]) =
      (.error (.chainUnavailable text), desk.after source (script pair block)) := by
  rw [ChainSource.answers_reserves head] at reserves
  exact onChain_run_after (Pair.reserves_run_error reserves)

theorem reserves_run
    (head : (source.answers pair desk.observed.chain).head = .ok block)
    (reserves : (source.answers pair desk.observed.chain).reserves = .ok word) :
    (onChain (Pair.reserves source pair block)).run
        (desk.after source [.latest, .read pair 6 block, .read pair 7 block]) =
      (if (source.answers pair desk.observed.chain).NoReserve then
          .error (.emptyReserves pair block)
        else .ok (Reserves.ofWord word), desk.after source (script pair block)) := by
  simp only [Answers.noReserve_iff reserves]
  rw [ChainSource.answers_reserves head] at reserves
  exact onChain_run_after (Pair.reserves_run reserves)

theorem reserves_run_noReserve
    (head : (source.answers pair desk.observed.chain).head = .ok block)
    (reserves : (source.answers pair desk.observed.chain).reserves = .ok word)
    (empty : (source.answers pair desk.observed.chain).NoReserve) :
    (onChain (Pair.reserves source pair block)).run
        (desk.after source [.latest, .read pair 6 block, .read pair 7 block]) =
      (.error (.emptyReserves pair block), desk.after source (script pair block)) := by
  rw [reserves_run head reserves, if_pos empty]

theorem reserves_run_ok
    (head : (source.answers pair desk.observed.chain).head = .ok block)
    (reserves : (source.answers pair desk.observed.chain).reserves = .ok word)
    (sides : ¬(source.answers pair desk.observed.chain).NoReserve) :
    (onChain (Pair.reserves source pair block)).run
        (desk.after source [.latest, .read pair 6 block, .read pair 7 block]) =
      (.ok (Reserves.ofWord word), desk.after source (script pair block)) := by
  rw [reserves_run head reserves, if_neg sides]

end Desk

/-- Pricing works on the scratch integers and pays the closed form. -/
theorem Desk.onScratch_run (amount reserveIn reserveOut : Nat) (desk : Desk σ) :
    (Desk.onScratch (Swap.amountOut amount reserveIn reserveOut Fee.percent030)).run desk =
      (.ok (Answers.price amount reserveIn reserveOut), { desk with scratch :=
        ((Swap.amountOut amount reserveIn reserveOut Fee.percent030).run desk.scratch).2 }) :=
  congrArg (fun paid => (Except.ok paid, _))
    (Swap.amountOut_run_fst amount reserveIn reserveOut Fee.percent030 desk.scratch)

/-! ## The whole quote -/

/-- **A quote is fixed by the answers.** -/
theorem quote_run (source : ChainSource σ) (request : QuoteRequest) (desk : Desk σ) :
    (quote source request).run desk =
      ((source.answers request.pair desk.observed.chain).outcome request,
        { observed := source.observe
            ((source.answers request.pair desk.observed.chain).calls request.pair) desk.observed
          scratch :=
            (source.answers request.pair desk.observed.chain).scratch request desk.scratch }) := by
  have exit := (source.answers request.pair desk.observed.chain).exit request
  unfold Answers.calls Answers.scratch
  generalize (source.answers request.pair desk.observed.chain).outcome request = result at exit ⊢
  generalize (source.answers request.pair desk.observed.chain).reached = made at exit ⊢
  cases exit with
  | head head => exact run_bind_of_error (Desk.latestBlock_run_error head)
  | token0 head token0 =>
    rw [Answers.block_of_head head]
    refine (run_bind_of_ok (Desk.latestBlock_run_ok head)).trans ?_
    exact run_bind_of_error (Desk.tokens_run_error0 head token0)
  | token1 head token0 token1 =>
    rw [Answers.block_of_head head]
    refine (run_bind_of_ok (Desk.latestBlock_run_ok head)).trans ?_
    exact run_bind_of_error (Desk.tokens_run_error1 head token0 token1)
  | noToken head token0 token1 empty =>
    rw [Answers.block_of_head head]
    refine (run_bind_of_ok (Desk.latestBlock_run_ok head)).trans ?_
    exact run_bind_of_error (Desk.tokens_run_noToken head token0 token1 empty)
  | reserves head token0 token1 tokens reserves =>
    rw [Answers.block_of_head head]
    refine (run_bind_of_ok (Desk.latestBlock_run_ok head)).trans ?_
    refine (run_bind_of_ok (Desk.tokens_run_ok head token0 token1 tokens)).trans ?_
    exact run_bind_of_error (Desk.reserves_run_error head reserves)
  | noReserve head token0 token1 tokens reserves empty =>
    rw [Answers.block_of_head head]
    refine (run_bind_of_ok (Desk.latestBlock_run_ok head)).trans ?_
    refine (run_bind_of_ok (Desk.tokens_run_ok head token0 token1 tokens)).trans ?_
    exact run_bind_of_error (Desk.reserves_run_noReserve head reserves empty)
  | mismatch head token0 token1 tokens reserves sides direct reversed =>
    rw [Answers.block_of_head head]
    refine (run_bind_of_ok (Desk.latestBlock_run_ok head)).trans ?_
    refine (run_bind_of_ok (Desk.tokens_run_ok head token0 token1 tokens)).trans ?_
    refine (run_bind_of_ok (Desk.reserves_run_ok head reserves sides)).trans ?_
    exact run_bind_of_error (run_lift.trans
      (congrArg (·, _) (Pair.orient_of_foreign direct reversed)))
  | priced head token0 token1 tokens reserves sides oriented =>
    rw [Answers.block_of_head head]
    refine (run_bind_of_ok (Desk.latestBlock_run_ok head)).trans ?_
    refine (run_bind_of_ok (Desk.tokens_run_ok head token0 token1 tokens)).trans ?_
    refine (run_bind_of_ok (Desk.reserves_run_ok head reserves sides)).trans ?_
    -- the reserves are checked once more, in the order of the request
    rw [Answers.noReserve_iff reserves, ← Reserves.reserve0_eq_zero_iff,
      ← Reserves.reserve1_eq_zero_iff] at sides
    by_cases direct : (source.answers request.pair desk.observed.chain).Direct request
    · rw [Answers.reserveIn, if_pos direct, Answers.reserveOut, if_pos direct,
        Answers.part_reserve0 reserves, Answers.part_reserve1 reserves]
      refine (run_bind_of_ok (run_lift.trans
        (congrArg (·, _) (Pair.orient_of_direct direct)))).trans ?_
      refine run_check.trans ?_
      rw [if_neg sides]
      exact Desk.onScratch_run _ _ _ _
    · have reversed := oriented.resolve_left direct
      rw [Answers.reserveIn, if_neg direct, Answers.reserveOut, if_neg direct,
        Answers.part_reserve0 reserves, Answers.part_reserve1 reserves]
      refine (run_bind_of_ok (run_lift.trans
        (congrArg (·, _) (Pair.orient_of_reversed direct reversed)))).trans ?_
      refine run_check.trans ?_
      rw [if_neg (fun h => sides h.symm)]
      exact Desk.onScratch_run _ _ _ _

/-- A request given as texts that is not acceptable leaves the desk alone. -/
theorem estimate_run_error {pairText src dst : String} {amountIn : Nat} {e : Refusal}
    (h : QuoteRequest.check pairText src dst amountIn = .error e) (desk : Desk σ) :
    (estimate source pairText src dst amountIn).run desk = (.error e, desk) :=
  run_bind_of_error (run_lift.trans (congrArg (·, desk) h))

/-- An acceptable request given as texts is quoted. -/
theorem estimate_run_ok {pairText src dst : String} {amountIn : Nat} {request : QuoteRequest}
    (h : QuoteRequest.check pairText src dst amountIn = .ok request) (desk : Desk σ) :
    (estimate source pairText src dst amountIn).run desk = (quote source request).run desk :=
  run_bind_of_ok (run_lift.trans (congrArg (·, desk) h))

end PairQuote
