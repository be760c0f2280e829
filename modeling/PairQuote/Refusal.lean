import PairQuote.Address

/-! # Why a quote is refused

Everything that can go wrong while a quote is made, in six **kinds**.  A kind fixes the
code and the one-line message a caller sees, the status of the response and whether the
same request is worth sending again: only the failure of the node behind the service may
pass by itself, all else is a definite answer about the request or the pair.

The **display text** adds the cause to the kind.  Causes that the library itself finds
are named below, so that their wording stands in one place.
-/
namespace PairQuote

/-- A refusal, with the text of its cause. -/
inductive Refusal where
  /-- The request itself is not acceptable. -/
  | invalidRequest (cause : String)
  /-- No pair lives at the address. -/
  | noSuchPair (what : String)
  /-- The pair holds nothing on one side. -/
  | insufficientLiquidity (what : String)
  /-- The tokens asked for are not the two tokens of the pair. -/
  | tokenMismatch (src dst token0 token1 : Address)
  /-- The node could not be asked or did not answer properly. -/
  | chainUnavailable (cause : String)
  /-- The service is set up wrongly. -/
  | misconfigured (cause : String)
  deriving DecidableEq, Repr, Inhabited

namespace Refusal

/-- The full text of a refusal. -/
def display : Refusal → String
  | invalidRequest cause => "Validation error: " ++ cause
  | noSuchPair what => "Not found: " ++ what
  | insufficientLiquidity what => "Insufficient liquidity: " ++ what
  | tokenMismatch src dst token0 token1 =>
    "Token pair does not match pool: src=" ++ src.text ++ " dst=" ++ dst.text ++
      " token0=" ++ token0.text ++ " token1=" ++ token1.text
  | chainUnavailable cause => "External service error: " ++ cause
  | misconfigured cause => "Configuration error: " ++ cause

/-- The code of the kind. -/
def code : Refusal → String
  | invalidRequest _ => "VALIDATION_ERROR"
  | noSuchPair _ => "NOT_FOUND"
  | insufficientLiquidity _ => "INSUFFICIENT_LIQUIDITY"
  | tokenMismatch .. => "TOKEN_PAIR_MISMATCH"
  | chainUnavailable _ => "EXTERNAL_SERVICE_ERROR"
  | misconfigured _ => "CONFIG_ERROR"

/-- The one-line message of the kind, which gives no cause away. -/
def message : Refusal → String
  | invalidRequest _ => "Request validation failed"
  | noSuchPair _ => "Requested resource not found"
  | insufficientLiquidity _ => "Pool has insufficient liquidity"
  | tokenMismatch .. => "Token pair does not match pool"
  | chainUnavailable _ => "External service unavailable"
  | misconfigured _ => "Internal server error"

/-- Whether the same request may succeed later. -/
def isRetryable : Refusal → Bool
  | chainUnavailable _ => true
  | _ => false

/-- The status of the response that carries the refusal. -/
def status : Refusal → Nat
  | invalidRequest _ => 400
  | insufficientLiquidity _ => 400
  | tokenMismatch .. => 400
  | noSuchPair _ => 404
  | chainUnavailable _ => 502
  | misconfigured _ => 500

/-! ### The causes that the library finds -/

/-- A field that does not hold the text of an address. -/
def malformedAddress (field text : String) : Refusal :=
  .invalidRequest ("invalid " ++ field ++ " address format: " ++ text)

/-- A request for nothing. -/
def amountNotPositive : Refusal := .invalidRequest "source amount must be positive"

/-- A request to exchange a token for itself. -/
def sameToken : Refusal :=
  .invalidRequest "source and destination tokens cannot be the same"

/-- A parameter that is absent or empty. -/
def missingParameter (name : String) : Refusal :=
  .invalidRequest (name ++ " parameter is required")

/-- An amount with a character that is no decimal digit. -/
def malformedAmount : Refusal :=
  .invalidRequest "source amount must be a valid non-negative integer"

/-- An amount without a single digit. -/
def emptyAmount : Refusal :=
  .invalidRequest
    "source amount must be a valid number: cannot parse integer from empty string"

/-- A fee that leaves nothing of the amount. -/
def feeTooLarge (removed : Nat) : Refusal :=
  .invalidRequest ("fee must be below 1000 parts per thousand, got " ++ Text.decimal removed)

/-- An address with no tokens in its slots. -/
def noPair (pair : Address) (block : UInt64) : Refusal :=
  .noSuchPair ("pool " ++ pair.text ++ " at block " ++ Text.decimal block.toNat)

/-- A pair one of whose reserves is zero at a block. -/
def emptyReserves (pair : Address) (block : UInt64) : Refusal :=
  .insufficientLiquidity
    ("pool " ++ pair.text ++ " has empty reserves at block " ++ Text.decimal block.toNat)

/-- A pair one of whose ordered reserves is zero. -/
def emptySide (pair : Address) : Refusal :=
  .insufficientLiquidity ("pool " ++ pair.text ++ " has empty reserves")

end Refusal

end PairQuote
