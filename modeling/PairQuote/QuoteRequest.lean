import PairQuote.Refusal

/-! # Quote requests

A **request** names a pair, a token to give, a different token to get and a positive
amount.  `check` makes one from texts: the amount is looked at first, then the three
addresses, then whether the tokens differ, and the first fault found is the answer.
-/
namespace PairQuote

/-- What a quote is asked for. -/
structure QuoteRequest where
  pair : Address
  src : Address
  dst : Address
  amountIn : Nat
  deriving DecidableEq, Repr

/-- Reads the address that a field holds. -/
def Address.ofField (field text : String) : Except Refusal Address :=
  match Address.ofText? text with
  | some a => .ok a
  | none => .error (.malformedAddress field text)

namespace QuoteRequest

/-- Makes a request, after every check that needs no chain. -/
def check (pair src dst : String) (amountIn : Nat) : Except Refusal QuoteRequest := do
  if amountIn = 0 then throw .amountNotPositive
  let pair ← Address.ofField "pool" pair
  let src ← Address.ofField "source token" src
  let dst ← Address.ofField "destination token" dst
  if src = dst then throw .sameToken
  return ⟨pair, src, dst, amountIn⟩

end QuoteRequest

end PairQuote
