import PairQuote.Http.Server
import PairQuote.Proofs.Quote.Outcome

/-! # What the service does with a request

The service looks at three things only before it works on a request: whether its target can
be read, which route it takes, and whether its client has some budget left.
`Server.respond_of_not_asks`, `Server.respond_of_allowed` and `Server.respond_of_refused` say
once what it does then; whether the limiter is asked at all is decided by
`Request.AsksForQuote`, without looking at headers or parameters.

A run answers every request in turn, each at the service that the ones before have left
(`Server.getElem?_run`).
-/
namespace PairQuote.Http

/-! ## Requests for quotes -/

variable {slash : LastSlash}

/-- A request for a quote: `GET` or `HEAD` of the path with the one segment `estimate`. -/
def Request.AsksForQuote (slash : LastSlash) (r : Request) : Prop :=
  isTarget r.target.toList = true ∧ (r.method = .get ∨ r.method = .head) ∧
    segments slash (Text.cut '?' r.target.toList).1 = ["estimate"]

instance (r : Request) : Decidable (r.AsksForQuote slash) :=
  inferInstanceAs (Decidable (_ ∧ _ ∧ _))

theorem Request.route?_eq_estimate_iff (r : Request) :
    r.route? slash = some .estimate ↔ (r.method = .get ∨ r.method = .head) ∧
      segments slash (Text.cut '?' r.target.toList).1 = ["estimate"] := by
  have hmethod : (r.method = .get ∨ r.method = .head) ↔ ¬r.method = .other := by
    cases r.method <;> simp
  unfold Request.route?
  rw [hmethod]
  by_cases hother : r.method = .other
  · simp [hother]
  · rw [if_neg hother]
    split <;> simp_all

theorem Request.asksForQuote_iff (r : Request) :
    r.AsksForQuote slash ↔ isTarget r.target.toList = true ∧ r.route? slash = some .estimate := by
  rw [r.route?_eq_estimate_iff]
  exact Iff.rfl

/-! ## One request -/

namespace Server
variable {σ : Type} {source : ChainSource σ} {s : Server σ} {r : Request} {now : Nat}

@[simp] theorem status_sentFor (method : Method) (response : Response) :
    (response.sentFor method).status = response.status := by
  unfold Response.sentFor
  split <;> rfl

@[simp] theorem status_fault (fault : Response.Fault) (r : Request) :
    (Response.fault fault r).status = fault.status := by
  unfold Response.fault
  split <;> rfl

/-- The response to a request for anything but a quote; no service is needed for it. -/
def responseElsewhere (slash : LastSlash) (r : Request) : Response :=
  if isTarget r.target.toList then
    (if r.route? slash = some .health then Response.plain "OK"
      else Response.fault .notFound r).sentFor r.method
  else Response.fault .badRequest r

/-- A request for anything else meets nothing of what the service keeps. -/
theorem respond_of_not_asks (h : ¬r.AsksForQuote slash) :
    respond source slash s r now = (responseElsewhere slash r, s) := by
  rw [r.asksForQuote_iff, not_and] at h
  unfold respond answer responseElsewhere
  by_cases htarget : isTarget r.target.toList = true
  · have hroute := h htarget
    rw [htarget]
    cases hr : r.route? slash with
    | none => rfl
    | some route =>
      cases route with
      | health => rfl
      | estimate => exact absurd hr hroute
  · rw [eq_false_of_ne_true htarget]
    rfl

theorem status_responseElsewhere (slash : LastSlash) (r : Request) :
    (responseElsewhere slash r).status ∈ [200, 400, 404] := by
  unfold responseElsewhere
  split
  · split
    · simp [Response.plain]
    · simp [Response.Fault.notFound]
  · simp [Response.Fault.badRequest]

/-- A request for a quote within the budget is charged and answered. -/
theorem respond_of_allowed (h : r.AsksForQuote slash)
    (hpass : (s.limiter.charge r.clientKey now).1 = true) :
    respond source slash s r now =
      ((answerEstimate source r.query s.desk).1.sentFor r.method,
        ⟨(s.limiter.charge r.clientKey now).2, (answerEstimate source r.query s.desk).2⟩) := by
  obtain ⟨htarget, hroute⟩ := r.asksForQuote_iff.mp h
  unfold respond answer
  rw [htarget, hroute]
  simp [hpass]

/-- A request for a quote above the budget is charged and goes no further. -/
theorem respond_of_refused (h : r.AsksForQuote slash)
    (hrefused : (s.limiter.charge r.clientKey now).1 = false) :
    respond source slash s r now =
      (Response.tooManyRequests.sentFor r.method,
        { s with limiter := (s.limiter.charge r.clientKey now).2 }) := by
  obtain ⟨htarget, hroute⟩ := r.asksForQuote_iff.mp h
  unfold respond answer
  rw [htarget, hroute]
  simp [hrefused]

end Server

/-! ## The answer to a request for a quote -/

/-- A parameter that is not there makes the request unacceptable. -/
theorem requiredParameter_error {fields : List (String × String)} {key name : String}
    {e : Refusal} (h : requiredParameter fields key name = .error e) :
    ∃ cause, e = .invalidRequest cause := by
  unfold requiredParameter at h
  split at h
  · cases h
  · cases h
    exact ⟨_, rfl⟩

/-- So does an amount that cannot be read. -/
theorem amountOf_error {text : String} {e : Refusal} (h : amountOf text = .error e) :
    ∃ cause, e = .invalidRequest cause := by
  unfold amountOf at h
  split at h
  · cases h
    exact ⟨_, rfl⟩
  · split at h
    · cases h
    · cases h
      exact ⟨_, rfl⟩

theorem EstimateParams.ofFields_error {fields : List (String × String)} {e : Refusal}
    (h : EstimateParams.ofFields fields = .error e) : ∃ cause, e = .invalidRequest cause := by
  unfold EstimateParams.ofFields at h
  rcases bind_eq_error h with h | ⟨pair, -, h⟩
  · exact requiredParameter_error h
  rcases bind_eq_error h with h | ⟨src, -, h⟩
  · exact requiredParameter_error h
  rcases bind_eq_error h with h | ⟨dst, -, h⟩
  · exact requiredParameter_error h
  rcases bind_eq_error h with h | ⟨text, -, h⟩
  · exact requiredParameter_error h
  rcases bind_eq_error h with h | ⟨amount, -, h⟩
  · exact amountOf_error h
  · cases h

namespace Server
variable {σ : Type} {source : ChainSource σ}

/-- A request for a quote is never refused for the way the service is set up. -/
theorem status_of_refused {fields : List (String × String)} {desk : Desk σ} {e : Refusal}
    (h : ((estimateFor source fields).run desk).1 = .error e) :
    e.status ∈ [400, 404, 502] := by
  have hinvalid : ∀ {e : Refusal}, (∃ cause, e = .invalidRequest cause) →
      e.status ∈ [400, 404, 502] := by
    rintro _ ⟨cause, rfl⟩
    exact List.mem_cons_self
  unfold estimateFor at h
  cases hparams : EstimateParams.ofFields fields with
  | error e' =>
    rw [run_bind_of_error (run_lift.trans (congrArg (·, desk) hparams))] at h
    cases h
    exact hinvalid (EstimateParams.ofFields_error hparams)
  | ok p =>
    rw [run_bind_of_ok (run_lift.trans (congrArg (·, desk) hparams))] at h
    cases hcheck : QuoteRequest.check p.pair p.src p.dst p.amount with
    | error e' =>
      rw [estimate_run_error hcheck] at h
      cases h
      exact hinvalid (QuoteRequest.check_error hcheck)
    | ok request =>
      rw [estimate_run_ok hcheck, quote_run] at h
      -- Each way to end with a refusal has its own status.
      have exit := (source.answers request.pair desk.observed.chain).exit request
      dsimp only at h
      rw [h] at exit
      generalize (source.answers request.pair desk.observed.chain).reached = made at exit
      cases exit <;> simp [Refusal.status, Refusal.noPair, Refusal.emptyReserves]

/-- The response to the result of a quote. -/
def responseTo : Except Refusal Nat → Response
  | .ok amount => Response.amount amount
  | .error e => Response.refusal e

theorem answerEstimate_eq (fields : List (String × String)) (desk : Desk σ) :
    answerEstimate source fields desk =
      (responseTo ((estimateFor source fields).run desk).1,
        ((estimateFor source fields).run desk).2) := by
  unfold answerEstimate
  obtain ⟨result, desk'⟩ := (estimateFor source fields).run desk
  cases result <;> rfl

theorem status_answerEstimate (source : ChainSource σ) (fields : List (String × String))
    (desk : Desk σ) :
    (answerEstimate source fields desk).1.status ∈ [200, 400, 404, 502] := by
  rw [answerEstimate_eq]
  cases hresult : ((estimateFor source fields).run desk).1 with
  | ok amount => exact List.mem_cons_self
  | error e => exact List.mem_cons_of_mem _ (status_of_refused hresult)

/-! ## The ways to deal with a request -/

variable {s : Server σ}

/-- **What the service does with a request.**  It answers something else and stays as it is,
or charges a request for a quote and answers it, or charges it and refuses it. -/
theorem respond_cases (source : ChainSource σ) (slash : LastSlash) (s : Server σ) (r : Request)
    (now : Nat) :
    (¬r.AsksForQuote slash ∧ (respond source slash s r now).2 = s ∧
      (respond source slash s r now).1.status ∈ [200, 400, 404]) ∨
    (r.AsksForQuote slash ∧ (s.limiter.charge r.clientKey now).1 = true ∧
      (respond source slash s r now).2 =
        ⟨(s.limiter.charge r.clientKey now).2, (answerEstimate source r.query s.desk).2⟩ ∧
      (respond source slash s r now).1.status ∈ [200, 400, 404, 502]) ∨
    (r.AsksForQuote slash ∧ (s.limiter.charge r.clientKey now).1 = false ∧
      (respond source slash s r now).2 = ⟨(s.limiter.charge r.clientKey now).2, s.desk⟩ ∧
      (respond source slash s r now).1.status = 429) := by
  by_cases hasks : r.AsksForQuote slash
  · cases hpass : (s.limiter.charge r.clientKey now).1 with
    | true =>
      rw [respond_of_allowed hasks hpass, status_sentFor]
      exact .inr (.inl ⟨hasks, rfl, rfl, status_answerEstimate source r.query s.desk⟩)
    | false =>
      rw [respond_of_refused hasks hpass, status_sentFor]
      exact .inr (.inr ⟨hasks, rfl, rfl, rfl⟩)
  · rw [respond_of_not_asks hasks]
    exact .inl ⟨hasks, rfl, status_responseElsewhere slash r⟩

/-! ## A run -/

@[simp] theorem run_nil : s.run source slash [] = ([], s) := rfl

theorem run_cons (r : Request) (now : Nat) (requests : List (Request × Nat)) :
    s.run source slash ((r, now) :: requests) =
      ((respond source slash s r now).1 ::
          ((respond source slash s r now).2.run source slash requests).1,
        ((respond source slash s r now).2.run source slash requests).2) := rfl

/-- Every request has one response. -/
theorem length_run (s : Server σ) (requests : List (Request × Nat)) :
    (s.run source slash requests).1.length = requests.length := by
  induction requests generalizing s with
  | nil => rfl
  | cons request requests ih =>
    obtain ⟨r, now⟩ := request
    rw [run_cons, List.length_cons, ih, List.length_cons]

theorem run_append (first second : List (Request × Nat)) :
    (s.run source slash (first ++ second)).2 =
      ((s.run source slash first).2.run source slash second).2 := by
  induction first generalizing s with
  | nil => rfl
  | cons request first ih =>
    obtain ⟨r, now⟩ := request
    rw [List.cons_append, run_cons, run_cons, ih]

/-- What the service has become when the first requests of a run are answered. -/
def after (source : ChainSource σ) (slash : LastSlash) (s : Server σ)
    (requests : List (Request × Nat)) (n : Nat) : Server σ :=
  (s.run source slash (requests.take n)).2

/-- **Every request is answered at the service that the requests before it have left.** -/
theorem getElem?_run (s : Server σ) {requests : List (Request × Nat)} {n : Nat} {r : Request}
    {now : Nat} (h : requests[n]? = some (r, now)) :
    (s.run source slash requests).1[n]? =
      some (respond source slash (s.after source slash requests n) r now).1 := by
  induction requests generalizing s n with
  | nil => cases h
  | cons request requests ih =>
    obtain ⟨first, time⟩ := request
    cases n with
    | zero =>
      cases h
      rfl
    | succ n => exact ih (respond source slash s first time).2 h

theorem after_succ (s : Server σ) {requests : List (Request × Nat)} {n : Nat} {r : Request}
    {now : Nat} (h : requests[n]? = some (r, now)) :
    s.after source slash requests (n + 1) =
      (respond source slash (s.after source slash requests n) r now).2 := by
  unfold after
  rw [List.take_add_one, h, Option.toList_some, run_append]
  rfl

end Server

end PairQuote.Http
