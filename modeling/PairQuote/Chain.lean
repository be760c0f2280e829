import PairQuote.Word
import PairQuote.Refusal

/-! # Reading a chain

All that a quote needs of a chain is its **head**, the number of the latest block, and the
word in a **slot** of a contract at a block.  A `ChainSource` answers these two calls from
a state of its own, which every call may change: the head may move, answers may differ
from one call to the next, and any call may fail.

A failure is an error of the node, whatever its text.  What is asked of the source is kept:
the **calls** of an `Observed` chain are those made so far, in their order, also the ones
that failed.
-/
namespace PairQuote

/-- A call to a chain. -/
inductive Call where
  | latest
  | read (contract : Address) (slot block : UInt64)
  deriving DecidableEq, Repr

/-- The text of a call. -/
def Call.text : Call → String
  | .latest => "latest"
  | .read contract slot block =>
    "read " ++ contract.text ++ " " ++ Text.decimal slot.toNat ++ " " ++
      Text.decimal block.toNat

/-- Answers the two calls, from a state that each call may change.  A failure has a
text. -/
structure ChainSource (σ : Type) where
  latest : σ → Except String UInt64 × σ
  read : Address → UInt64 → UInt64 → σ → Except String Word × σ

/-- The state of a chain and the calls made so far. -/
structure Observed (σ : Type) where
  chain : σ
  calls : List Call := []

/-- Work on a chain that may be refused. -/
abbrev ChainM (σ : Type) := ExceptT Refusal (StateM (Observed σ))

namespace ChainSource

variable {σ : Type} (source : ChainSource σ)

/-- Makes a call and notes it; a failure is one of the node. -/
def ask {α : Type} (call : Call) (answer : σ → Except String α × σ) : ChainM σ α :=
  ExceptT.mk fun observed =>
    let (result, chain) := answer observed.chain
    (result.mapError .chainUnavailable, ⟨chain, observed.calls ++ [call]⟩)

/-- The number of the latest block. -/
def latestBlock : ChainM σ UInt64 := ask .latest source.latest

/-- The word in a slot of a contract at a block. -/
def readSlot (contract : Address) (slot block : UInt64) : ChainM σ Word :=
  ask (.read contract slot block) (source.read contract slot block)

end ChainSource

end PairQuote
