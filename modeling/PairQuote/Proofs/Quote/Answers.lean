import PairQuote.Quote
import PairQuote.Proofs.Pair.Decoding
import PairQuote.Proofs.Swap.Pricing

/-! # What decides a quote

A quote makes at most four calls: one for the head, then one for each of the slots 6, 7
and 8 at that head.  `ChainSource.answers` puts together what the chain would say to these
four, each asked in the state that the one before has left — so the head may move and
answers may change between any two of them.

From the answers alone follow

* what the request is told (`Answers.outcome`): the first of seven **hindrances** that
  applies, and the price in closed form if none does;
* which calls are made (`Answers.calls`): the four of the `script` up to the one where the
  quote stops.

`quote_run` says that this is all a quote does: its result, the chain it leaves behind,
the calls it notes and the scratch integers.  Nothing later opens the definition of
`quote` again.
-/
namespace PairQuote

/-- What a chain answers to the four calls of a quote. -/
structure Answers where
  head : Except String UInt64
  token0 : Except String Word
  token1 : Except String Word
  reserves : Except String Word

/-- The four calls of a quote that is stopped by nothing, at a block. -/
def script (pair : Address) (block : UInt64) : List Call :=
  [.latest, .read pair 6 block, .read pair 7 block, .read pair 8 block]

@[simp] theorem length_script (pair : Address) (block : UInt64) :
    (script pair block).length = 4 := rfl

namespace ChainSource
variable {σ : Type} (source : ChainSource σ)

/-- The chain after a call. -/
def after (chain : σ) : Call → σ
  | .latest => (source.latest chain).2
  | .read contract slot block => (source.read contract slot block chain).2

/-- The chain after several calls. -/
def replay (calls : List Call) (chain : σ) : σ := calls.foldl source.after chain

/-- An observed chain after several more calls. -/
def observe (calls : List Call) (o : Observed σ) : Observed σ :=
  ⟨source.replay calls o.chain, o.calls ++ calls⟩

@[simp] theorem observe_nil (o : Observed σ) : source.observe [] o = o := by
  rw [observe, List.append_nil]
  rfl

theorem observe_append (first second : List Call) (o : Observed σ) :
    source.observe (first ++ second) o = source.observe second (source.observe first o) := by
  simp only [observe, replay, List.foldl_append, List.append_assoc]

/-- The answers to the calls of a quote, all reads at the head that was answered. -/
def answers (pair : Address) (chain : σ) : Answers :=
  let head := (source.latest chain).1
  let block := head.toOption.getD 0
  { head := head
    token0 := (source.read pair 6 block (source.replay ((script pair block).take 1) chain)).1
    token1 := (source.read pair 7 block (source.replay ((script pair block).take 2) chain)).1
    reserves := (source.read pair 8 block (source.replay ((script pair block).take 3) chain)).1 }

end ChainSource

namespace Answers

/-- The head, if it was answered. -/
def block (a : Answers) : UInt64 := a.head.toOption.getD 0

theorem block_of_head {a : Answers} {block : UInt64} (h : a.head = .ok block) :
    a.block = block := by
  rw [Answers.block, h]
  rfl

/-- A part of an answered word. -/
def part (answer : Except String Word) (low width : Nat) : Nat :=
  (answer.toOption.getD Word.zero).part low width

/-- The address in the low 160 bits of an answered word. -/
def token (answer : Except String Word) : Address := ⟨BitVec.ofNat 160 (part answer 0 160)⟩

/-- The refusal that a failed call leads to. -/
def failure {α : Type} : Except String α → Option Refusal
  | .error text => some (.chainUnavailable text)
  | .ok _ => none

/-- Whether one of the two token words has no address in it. -/
def NoToken (a : Answers) : Prop := part a.token0 0 160 = 0 ∨ part a.token1 0 160 = 0

/-- Whether one of the two reserves is zero. -/
def NoReserve (a : Answers) : Prop :=
  part a.reserves 0 112 = 0 ∨ part a.reserves 112 112 = 0

/-- The request gives the first token for the second. -/
def Direct (request : QuoteRequest) (a : Answers) : Prop :=
  request.src = token a.token0 ∧ request.dst = token a.token1

/-- The request gives the second token for the first. -/
def Reversed (request : QuoteRequest) (a : Answers) : Prop :=
  request.src = token a.token1 ∧ request.dst = token a.token0

instance (a : Answers) : Decidable a.NoToken := inferInstanceAs (Decidable (_ ∨ _))
instance (a : Answers) : Decidable a.NoReserve := inferInstanceAs (Decidable (_ ∨ _))
instance (request : QuoteRequest) (a : Answers) : Decidable (a.Direct request) :=
  inferInstanceAs (Decidable (_ ∧ _))
instance (request : QuoteRequest) (a : Answers) : Decidable (a.Reversed request) :=
  inferInstanceAs (Decidable (_ ∧ _))

/-- What can stop a quote, in the order in which it does. -/
def hindrances (request : QuoteRequest) (a : Answers) : List (Option Refusal) :=
  [ failure a.head,
    failure a.token0,
    failure a.token1,
    if a.NoToken then some (.noPair request.pair a.block) else none,
    failure a.reserves,
    if a.NoReserve then some (.emptyReserves request.pair a.block) else none,
    if a.Direct request ∨ a.Reversed request then none
    else some (.tokenMismatch request.src request.dst (token a.token0) (token a.token1)) ]

/-- The price of `amount` against two reserves, 997 parts per thousand of it counted. -/
def price (amount reserveIn reserveOut : Nat) : Nat :=
  amount * 997 * reserveOut / (reserveIn * 1000 + amount * 997)

theorem token_of_ok {answer : Except String Word} {word : Word} (h : answer = .ok word) :
    token answer = Address.ofWord word := by
  rw [h, Address.ofWord_eq]
  rfl

theorem noToken_iff {a : Answers} {word0 word1 : Word} (h0 : a.token0 = .ok word0)
    (h1 : a.token1 = .ok word1) :
    a.NoToken ↔ word0.part 0 160 = 0 ∨ word1.part 0 160 = 0 := by
  rw [NoToken, h0, h1]
  rfl

theorem noReserve_iff {a : Answers} {word : Word} (h : a.reserves = .ok word) :
    a.NoReserve ↔ word.part 0 112 = 0 ∨ word.part 112 112 = 0 := by
  rw [NoReserve, h]
  rfl

/-- The reserve of the token that is given. -/
def reserveIn (request : QuoteRequest) (a : Answers) : Nat :=
  if a.Direct request then part a.reserves 0 112 else part a.reserves 112 112

/-- The reserve of the token that is asked for. -/
def reserveOut (request : QuoteRequest) (a : Answers) : Nat :=
  if a.Direct request then part a.reserves 112 112 else part a.reserves 0 112

theorem part_reserve0 {a : Answers} {word : Word} (h : a.reserves = .ok word) :
    part a.reserves 0 112 = (Reserves.ofWord word).reserve0.toNat := by
  rw [h, Reserves.toNat_reserve0]
  rfl

theorem part_reserve1 {a : Answers} {word : Word} (h : a.reserves = .ok word) :
    part a.reserves 112 112 = (Reserves.ofWord word).reserve1.toNat := by
  rw [h, Reserves.toNat_reserve1]
  rfl

/-- What the request is told: the first hindrance, or else the price. -/
def outcome (request : QuoteRequest) (a : Answers) : Except Refusal Nat :=
  match (a.hindrances request).findSome? id with
  | some refusal => .error refusal
  | none => .ok (price request.amountIn (a.reserveIn request) (a.reserveOut request))

/-- How many of the four calls are made. -/
def reached (a : Answers) : Nat :=
  if (failure a.head).isSome then 1
  else if (failure a.token0).isSome then 2
  else if (failure a.token1).isSome ∨ a.NoToken then 3
  else 4

/-- The calls that are made. -/
def calls (pair : Address) (a : Answers) : List Call := (script pair a.block).take a.reached

/-- The scratch integers afterwards: only a price needs any. -/
def scratch (request : QuoteRequest) (a : Answers) (p : ScratchPool) : ScratchPool :=
  match a.outcome request with
  | .ok _ => ((Swap.amountOut request.amountIn (a.reserveIn request) (a.reserveOut request)
      Fee.percent030).run p).2
  | .error _ => p

/-! ## The eight ways in which a quote ends -/

/-- One rule for each way to end: what the answers are, what the request is told and how
many calls are made. -/
inductive Exit (request : QuoteRequest) (a : Answers) : Except Refusal Nat → Nat → Prop
  | head {text : String} (head : a.head = .error text) :
    Exit request a (.error (.chainUnavailable text)) 1
  | token0 {block : UInt64} {text : String} (head : a.head = .ok block)
      (token0 : a.token0 = .error text) : Exit request a (.error (.chainUnavailable text)) 2
  | token1 {block : UInt64} {word0 : Word} {text : String} (head : a.head = .ok block)
      (token0 : a.token0 = .ok word0) (token1 : a.token1 = .error text) :
    Exit request a (.error (.chainUnavailable text)) 3
  | noToken {block : UInt64} {word0 word1 : Word} (head : a.head = .ok block)
      (token0 : a.token0 = .ok word0) (token1 : a.token1 = .ok word1) (empty : a.NoToken) :
    Exit request a (.error (.noPair request.pair block)) 3
  | reserves {block : UInt64} {word0 word1 : Word} {text : String} (head : a.head = .ok block)
      (token0 : a.token0 = .ok word0) (token1 : a.token1 = .ok word1) (tokens : ¬a.NoToken)
      (reserves : a.reserves = .error text) :
    Exit request a (.error (.chainUnavailable text)) 4
  | noReserve {block : UInt64} {word0 word1 word : Word} (head : a.head = .ok block)
      (token0 : a.token0 = .ok word0) (token1 : a.token1 = .ok word1) (tokens : ¬a.NoToken)
      (reserves : a.reserves = .ok word) (empty : a.NoReserve) :
    Exit request a (.error (.emptyReserves request.pair block)) 4
  | mismatch {block : UInt64} {word0 word1 word : Word} (head : a.head = .ok block)
      (token0 : a.token0 = .ok word0) (token1 : a.token1 = .ok word1) (tokens : ¬a.NoToken)
      (reserves : a.reserves = .ok word) (sides : ¬a.NoReserve)
      (direct : ¬a.Direct request) (reversed : ¬a.Reversed request) :
    Exit request a
      (.error (.tokenMismatch request.src request.dst (token a.token0) (token a.token1))) 4
  | priced {block : UInt64} {word0 word1 word : Word} (head : a.head = .ok block)
      (token0 : a.token0 = .ok word0) (token1 : a.token1 = .ok word1) (tokens : ¬a.NoToken)
      (reserves : a.reserves = .ok word) (sides : ¬a.NoReserve)
      (oriented : a.Direct request ∨ a.Reversed request) :
    Exit request a
      (.ok (price request.amountIn (a.reserveIn request) (a.reserveOut request))) 4

/-- Every quote ends in one of the eight ways. -/
theorem exit (request : QuoteRequest) (a : Answers) :
    Exit request a (a.outcome request) a.reached := by
  unfold outcome hindrances reached
  cases head : a.head with
  | error text => exact .head head
  | ok block =>
    cases token0 : a.token0 with
    | error text => exact .token0 head token0
    | ok word0 =>
      cases token1 : a.token1 with
      | error text => exact .token1 head token0 token1
      | ok word1 =>
        have blocked := block_of_head head
        by_cases tokens : a.NoToken
        · have three : (failure (.ok word1 : Except String Word)).isSome = true ∨ a.NoToken :=
            .inr tokens
          rw [if_pos tokens, if_pos three, blocked]
          exact .noToken head token0 token1 tokens
        · have four : ¬((failure (.ok word1 : Except String Word)).isSome = true ∨ a.NoToken) :=
            fun h => h.elim nofun tokens
          rw [if_neg tokens, if_neg four]
          cases reserves : a.reserves with
          | error text => exact .reserves head token0 token1 tokens reserves
          | ok word =>
            by_cases sides : a.NoReserve
            · rw [if_pos sides, blocked]
              exact .noReserve head token0 token1 tokens reserves sides
            · rw [if_neg sides]
              by_cases oriented : a.Direct request ∨ a.Reversed request
              · rw [if_pos oriented]
                exact .priced head token0 token1 tokens reserves sides oriented
              · have exit := Exit.mismatch head token0 token1 tokens reserves sides
                  (fun h => oriented (.inl h)) (fun h => oriented (.inr h))
                rw [token0, token1] at exit
                rw [if_neg oriented]
                exact exit

/-- The way a quote ends is what the request is told. -/
theorem Exit.outcome_eq {request : QuoteRequest} {a : Answers} {result : Except Refusal Nat}
    {made : Nat} (exit : Exit request a result made) : a.outcome request = result := by
  unfold outcome hindrances
  cases exit with
  | head head => rw [head]; rfl
  | token0 head token0 => rw [head, token0]; rfl
  | token1 head token0 token1 => rw [head, token0, token1]; rfl
  | noToken head token0 token1 empty =>
    rw [if_pos empty, block_of_head head, head, token0, token1]
    rfl
  | reserves head token0 token1 tokens reserves =>
    rw [if_neg tokens, head, token0, token1, reserves]
    rfl
  | noReserve head token0 token1 tokens reserves empty =>
    rw [if_neg tokens, if_pos empty, block_of_head head, head, token0, token1, reserves]
    rfl
  | mismatch head token0 token1 tokens reserves sides direct reversed =>
    rw [if_neg tokens, if_neg sides, if_neg (not_or.mpr ⟨direct, reversed⟩), head, token0, token1,
      reserves]
    rfl
  | priced head token0 token1 tokens reserves sides oriented =>
    rw [if_neg tokens, if_neg sides, if_pos oriented, head, token0, token1, reserves]
    rfl

end Answers

/-! ## Where the answers come from -/

namespace ChainSource
variable {σ : Type} {source : ChainSource σ} {pair : Address} {chain : σ} {block : UInt64}

theorem answers_token0 (h : (source.answers pair chain).head = .ok block) :
    (source.answers pair chain).token0 =
      (source.read pair 6 block (source.replay [.latest] chain)).1 := by
  rw [← Answers.block_of_head h]
  rfl

theorem answers_token1 (h : (source.answers pair chain).head = .ok block) :
    (source.answers pair chain).token1 =
      (source.read pair 7 block (source.replay [.latest, .read pair 6 block] chain)).1 := by
  rw [← Answers.block_of_head h]
  rfl

theorem answers_reserves (h : (source.answers pair chain).head = .ok block) :
    (source.answers pair chain).reserves =
      (source.read pair 8 block
        (source.replay [.latest, .read pair 6 block, .read pair 7 block] chain)).1 := by
  rw [← Answers.block_of_head h]
  rfl

end ChainSource

end PairQuote
