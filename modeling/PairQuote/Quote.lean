import PairQuote.Pair.Reading
import PairQuote.QuoteRequest
import PairQuote.Swap

/-! # Quotes

A **quote** is what a pair would pay for the requested amount at the latest block.  The
head is asked for once and all slots are read at that block, so that a new block between
two reads cannot mix two states of the pair.  Then the reserves are ordered for the
direction of the swap and the amount is priced with the preset fee of 0.30 percent, in the
scratch integers of the **desk**.
-/
namespace PairQuote

/-- What quotes are made with: a chain and scratch integers. -/
structure Desk (σ : Type) where
  observed : Observed σ
  scratch : ScratchPool

/-- Work at a desk that may be refused. -/
abbrev DeskM (σ : Type) := ExceptT Refusal (StateM (Desk σ))

namespace Desk

variable {σ α : Type}

/-- Works on the chain only. -/
def onChain (work : ChainM σ α) : DeskM σ α :=
  ExceptT.mk fun desk =>
    let (result, observed) := work.run desk.observed
    (result, { desk with observed := observed })

/-- Works on the scratch integers only. -/
def onScratch (work : StateM ScratchPool α) : DeskM σ α :=
  ExceptT.mk fun desk =>
    let (result, scratch) := work.run desk.scratch
    (.ok result, { desk with scratch := scratch })

/-- A desk with the calls made on its chain forgotten. -/
def forgetCalls (desk : Desk σ) : Desk σ :=
  { desk with observed := { desk.observed with calls := [] } }

end Desk

variable {σ : Type} (source : ChainSource σ)

/-- What the pair of a request pays at the latest block. -/
def quote (request : QuoteRequest) : DeskM σ Nat := do
  let block ← Desk.onChain source.latestBlock
  let (token0, token1) ← Desk.onChain (Pair.tokens source request.pair block)
  let reserves ← Desk.onChain (Pair.reserves source request.pair block)
  let (reserveIn, reserveOut) ←
    Pair.orient request.src request.dst token0 token1 reserves.reserve0 reserves.reserve1
  if reserveIn = 0 ∨ reserveOut = 0 then throw (.emptySide request.pair)
  Desk.onScratch
    (Swap.amountOut request.amountIn reserveIn.toNat reserveOut.toNat Fee.percent030)

/-- Checks a request given as texts and quotes it. -/
def estimate (pair src dst : String) (amountIn : Nat) : DeskM σ Nat := do
  let request ← QuoteRequest.check pair src dst amountIn
  quote source request

end PairQuote
