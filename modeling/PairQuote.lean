import PairQuote.Quote
import PairQuote.Refusal.Report
import PairQuote.Limiter
import PairQuote.Chain.Table
import PairQuote.ScratchPool.Workspace
import PairQuote.Binary64.Shortest
import PairQuote.Http.Server
import PairQuote.Rpc.Node
import PairQuote.Settings.Load
import PairQuote.Proofs.Quote.Outcome
import PairQuote.Proofs.Quote.Calls
import PairQuote.Proofs.Quote.Session
import PairQuote.Proofs.Limiter.Isolation
import PairQuote.Proofs.Limiter.Budget
import PairQuote.Proofs.Limiter.Table
import PairQuote.Proofs.Limiter.Refused
import PairQuote.Proofs.ScratchPool.Borrowers
import PairQuote.Proofs.ScratchPool.Accounts
import PairQuote.Proofs.ScratchPool.Peak
import PairQuote.Proofs.Quote.Reuse
import PairQuote.Proofs.Quote.Contract
import PairQuote.Proofs.Http.Discretion
import PairQuote.Proofs.Http.Identity
import PairQuote.Proofs.Rpc.Opening
import PairQuote.Proofs.Json.Fuel
import PairQuote.Proofs.Json.Written
import PairQuote.Proofs.Rpc.Body
import PairQuote.Proofs.Rpc.Frame
import PairQuote.Proofs.Rpc.Steps
import PairQuote.Proofs.Rpc.Containment
import PairQuote.Proofs.Rpc.Turns
import PairQuote.Proofs.Rpc.Honest
import PairQuote.Proofs.Rpc.Reads
import PairQuote.Proofs.Pair.Format
import PairQuote.Proofs.Quote.Relabelling
import PairQuote.Proofs.Swap.InPlace
import PairQuote.Proofs.Swap.Splitting
import PairQuote.Proofs.Swap.RoundTrip
import PairQuote.Proofs.Swap.Terms
import PairQuote.Proofs.Address.Stages
import PairQuote.Proofs.Quote.Acceptance
import PairQuote.Proofs.Http.Amounts
import PairQuote.Proofs.Refusal.Report
import PairQuote.Proofs.Settings.Precedence
import PairQuote.Proofs.Swap.PoolEffect
