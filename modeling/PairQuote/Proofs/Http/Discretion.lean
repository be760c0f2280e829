import PairQuote.Proofs.Http.Parameters
import PairQuote.Proofs.Quote.FailureTexts

/-! # Clients do not learn why the chain failed

The text of a failure of the chain is in the refusal of a quote, but not in the response: a
refusal that is the service's own fault is told by its kind only (`Response.refusal_muffled`).

So two services whose chains differ in failure texts and in nothing else answer every row of
requests alike.  They are kept so by each request (`Alike.respond`), and the run follows by
induction.
-/
namespace PairQuote.Http

/-- The response to a refusal keeps the text of a failure of the chain to itself. -/
theorem Response.refusal_muffled (e : Refusal) :
    Response.refusal e.muffled = Response.refusal e := by
  cases e <;> rfl

namespace Server
variable {σ σ' : Type} {source : ChainSource σ} {source' : ChainSource σ'} {slash : LastSlash}

/-! ## One request -/

/-- Two services that differ in what their chains say about failures, and in nothing else. -/
structure Alike (source : ChainSource σ) (s : Server σ) (source' : ChainSource σ')
    (s' : Server σ') : Prop where
  limiter : s.limiter = s'.limiter
  desk : Desk.Alike source s.desk source' s'.desk

theorem responseTo_eq {result result' : Except Refusal Nat}
    (h : result.mapError Refusal.muffled = result'.mapError Refusal.muffled) :
    responseTo result = responseTo result' := by
  cases result with
  | ok amount =>
    cases result' with
    | ok amount' => exact congrArg Response.amount (Except.ok.inj h)
    | error e' => cases h
  | error e =>
    cases result' with
    | ok amount' => cases h
    | error e' =>
      calc Response.refusal e
          = Response.refusal e.muffled := (Response.refusal_muffled e).symm
        _ = Response.refusal e'.muffled := congrArg Response.refusal (Except.error.inj h)
        _ = Response.refusal e' := Response.refusal_muffled e'

/-- At two desks that differ in failure texts, the same parameters have the same response. -/
theorem alike_answerEstimate {desk : Desk σ} {desk' : Desk σ'}
    (h : Desk.Alike source desk source' desk') (fields : List (String × String)) :
    (answerEstimate source fields desk).1 = (answerEstimate source' fields desk').1 ∧
      Desk.Alike source (answerEstimate source fields desk).2 source'
        (answerEstimate source' fields desk').2 := by
  rw [answerEstimate_eq, answerEstimate_eq]
  -- The checks do not look at the chain.
  cases hjudge : judge fields with
  | error e =>
    rw [estimateFor_run_error hjudge, estimateFor_run_error hjudge]
    exact ⟨rfl, h⟩
  | ok request =>
    rw [estimateFor_run_ok hjudge, estimateFor_run_ok hjudge]
    obtain ⟨htold, hleft⟩ := h.quote request
    exact ⟨responseTo_eq htold, hleft⟩

/-- Such services respond alike to a request, and are such services after it. -/
theorem Alike.respond {s : Server σ} {s' : Server σ'} (h : Alike source s source' s')
    (r : Request) (now : Nat) :
    (Server.respond source slash s r now).1 = (Server.respond source' slash s' r now).1 ∧
      Alike source (Server.respond source slash s r now).2 source'
        (Server.respond source' slash s' r now).2 := by
  by_cases hasks : r.AsksForQuote slash
  · -- Both limiters are the same, so both services pass the request or both refuse it.
    cases hpass : (s.limiter.charge r.clientKey now).1 with
    | false =>
      rw [respond_of_refused hasks hpass, respond_of_refused hasks (h.limiter ▸ hpass)]
      exact ⟨rfl, congrArg (fun l => (l.charge r.clientKey now).2) h.limiter, h.desk⟩
    | true =>
      obtain ⟨hanswer, hdesk⟩ := alike_answerEstimate h.desk r.query
      rw [respond_of_allowed hasks hpass, respond_of_allowed hasks (h.limiter ▸ hpass), hanswer]
      exact ⟨rfl, congrArg (fun l => (l.charge r.clientKey now).2) h.limiter, hdesk⟩
  · rw [respond_of_not_asks hasks, respond_of_not_asks hasks]
    exact ⟨rfl, h⟩

/-! ## A run -/

theorem Alike.responses {s : Server σ} {s' : Server σ'} (h : Alike source s source' s')
    (requests : List (Request × Nat)) :
    (s.run source slash requests).1 = (s'.run source' slash requests).1 := by
  induction requests generalizing s s' with
  | nil => rfl
  | cons request requests ih =>
    obtain ⟨r, now⟩ := request
    obtain ⟨hresponse, hleft⟩ := h.respond r now
    rw [run_cons, run_cons, hresponse, ih hleft]

/-- **The texts of failures of the chain never reach a client.**  On two chains that differ
in these texts only, new services with the same budget answer every row of requests alike. -/
theorem discreet {chain : σ} {chain' : σ'}
    (h : DifferInFailureTexts source chain source' chain') (slash : LastSlash) (budget : Nat)
    (requests : List (Request × Nat)) :
    ((new budget chain).run source slash requests).1 =
      ((new budget chain').run source' slash requests).1 := by
  have hnew : Alike source (new budget chain) source' (new budget chain') := ⟨rfl, h, rfl, rfl⟩
  exact hnew.responses requests

/-- A chain whose head cannot be told, and the reason. -/
def brokenChain : TableChain := { faults := [(.head, "connect to 10.0.0.7: no such key")] }

/-- Whatever the reason, the client is told that there is a failure and no more. -/
theorem discreet_of_broken_chain :
    (TableChain.source.latest brokenChain).1 ≠
        (TableChain.source.latest (brokenChain.retell fun _ => "timeout")).1 ∧
      ((new 1 brokenChain).run TableChain.source .ignored [(soundRequest, 0)]).1 =
        ((new 1 (brokenChain.retell fun _ => "timeout")).run TableChain.source .ignored
          [(soundRequest, 0)]).1 ∧
      ((new 1 brokenChain).run TableChain.source .ignored [(soundRequest, 0)]).1[0]? = some
        ⟨502, "application/json", "\x7b\"error\":\x7b\"code\":\"EXTERNAL_SERVICE_ERROR\"," ++
          "\"message\":\"External service unavailable\"\x7d\x7d"⟩ := by
  refine ⟨by decide +kernel, discreet (TableChain.differInFailureTexts_retell _ _) _ 1 _, ?_⟩
  have hpass : ((new 1 brokenChain).limiter.charge soundRequest.clientKey 0).1 = true := by
    simp [Limiter.passes_charge, new, Limiter.new, Window.current, Window.start]
  rw [getElem?_run _ rfl]
  refine congrArg some ?_
  refine (congrArg Prod.fst (respond_of_allowed asksForQuote_soundRequest hpass)).trans ?_
  rw [query_soundRequest]
  decide +kernel

end Server

end PairQuote.Http
