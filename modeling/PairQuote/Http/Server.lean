import PairQuote.Quote
import PairQuote.Limiter
import PairQuote.Http.Response

/-! # The service

The service keeps a limiter and the desk at which quotes are made.  A request for a quote
is **charged** to its client before anything else of it is looked at; if it passes, its
four parameters must be there, in the order pair, source, destination, amount, the amount
must be a row of decimal digits, and what is left of the checks and the quote itself
follow.  Nothing else is charged.

Which paths are requests for quotes depends on what a slash at the end of a path comes to; the
service is the same under either rule.
-/
namespace PairQuote.Http

/-- What the service keeps between requests. -/
structure Server (σ : Type) where
  limiter : Limiter
  desk : Desk σ

/-- A parameter that must be there and not be empty. -/
def requiredParameter (fields : List (String × String)) (key name : String) :
    Except Refusal String :=
  match (parameter? fields key).filter (!·.isEmpty) with
  | some value => .ok value
  | none => .error (.missingParameter name)

/-- The amount that a row of decimal digits stands for.  A row without digits is a fault
of its own, which no parameter that is there and not empty can have. -/
def amountOf (text : String) : Except Refusal Nat :=
  if text.isEmpty then .error .emptyAmount
  else
    match Text.ofDecimal? text with
    | some n => .ok n
    | none => .error .malformedAmount

/-- The four parameters of a request for a quote. -/
structure EstimateParams where
  pair : String
  src : String
  dst : String
  amount : Nat
  deriving DecidableEq, Repr

/-- Takes the parameters out of the fields of a query. -/
def EstimateParams.ofFields (fields : List (String × String)) :
    Except Refusal EstimateParams := do
  let pair ← requiredParameter fields "pool" "pool"
  let src ← requiredParameter fields "src" "source token"
  let dst ← requiredParameter fields "dst" "destination token"
  let amount ← amountOf (← requiredParameter fields "src_amount" "source amount")
  return ⟨pair, src, dst, amount⟩

namespace Server

variable {σ : Type} (source : ChainSource σ)

/-- A service that has had no request. -/
def new (budget : Nat) (chain : σ) : Server σ :=
  { limiter := Limiter.new budget
    desk := { observed := { chain := chain }
              scratch := ScratchPool.new ScratchPool.defaultCapacity } }

/-- The service with the calls made on its chain forgotten. -/
def forgetCalls (s : Server σ) : Server σ := { s with desk := s.desk.forgetCalls }

/-- The quote a request asks for. -/
def estimateFor (fields : List (String × String)) : DeskM σ Nat := do
  let p ← EstimateParams.ofFields fields
  estimate source p.pair p.src p.dst p.amount

/-- The response to a request for a quote that is within the budget. -/
def answerEstimate (fields : List (String × String)) (desk : Desk σ) : Response × Desk σ :=
  match (estimateFor source fields).run desk with
  | (.ok amount, desk) => (Response.amount amount, desk)
  | (.error e, desk) => (Response.refusal e, desk)

variable (slash : LastSlash)

/-- The full response to a request at a time. -/
def answer (s : Server σ) (r : Request) (now : Nat) : Response × Server σ :=
  match r.route? slash with
  | none => (Response.fault .notFound r, s)
  | some .health => (Response.plain "OK", s)
  | some .estimate =>
    let (allowed, limiter) := s.limiter.charge r.clientKey now
    if allowed then
      let (response, desk) := answerEstimate source r.query s.desk
      (response, ⟨limiter, desk⟩)
    else (Response.tooManyRequests, { s with limiter := limiter })

/-- The response to a request at a time, as it is sent.  A request with a bad target is not
looked at any further, not even at its method. -/
def respond (s : Server σ) (r : Request) (now : Nat) : Response × Server σ :=
  if !isTarget r.target.toList then (Response.fault .badRequest r, s)
  else
    let (response, s) := answer source slash s r now
    (response.sentFor r.method, s)

/-- The responses to requests in turn, each with its time. -/
def run (s : Server σ) : List (Request × Nat) → List Response × Server σ
  | [] => ([], s)
  | (r, now) :: rest =>
    let (response, s) := respond source slash s r now
    let (responses, s) := run s rest
    (response :: responses, s)

end Server

end PairQuote.Http
