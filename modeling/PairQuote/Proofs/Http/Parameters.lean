import PairQuote.Chain.Table
import PairQuote.Proofs.Http.Run
import PairQuote.Proofs.Limiter.Account
import PairQuote.Proofs.Quote.Request

/-! # How a request for a quote is answered

The four parameters of a request for a quote are `Asked` as texts, any of which may be
absent.  Ten checks follow one another (`Asked.faults`): that the parameters are there, that
the amount is a row of decimal digits, and then those that every request given as texts has
to pass.  The first check that fails decides the answer, and the chain is not called; if none
fails, the answer is that of the quote, and so are the calls.

`Answered` has one rule for each of the three kinds of answer.  The service keeps to it in
every run (`Server.answered`).
-/
namespace PairQuote.Http

/-- The parameters of a request for a quote, as they come. -/
structure Asked where
  pair : Option String
  src : Option String
  dst : Option String
  amount : Option String
  deriving DecidableEq, Repr

namespace Asked

/-- The parameters in the fields of a query. -/
def ofFields (fields : List (String × String)) : Asked :=
  { pair := parameter? fields "pool"
    src := parameter? fields "src"
    dst := parameter? fields "dst"
    amount := parameter? fields "src_amount" }

/-- The text of a parameter; one that is absent is as good as empty. -/
def text (value : Option String) : String := value.getD ""

/-- What is wrong with a parameter that is absent or empty. -/
def absence (name : String) (value : Option String) : Option String :=
  if text value = "" then some (name ++ " parameter is required") else none

/-- The number that the digits of the amount stand for. -/
def amountIn (p : Asked) : Nat := Text.decimalValue (text p.amount).toList

/-- What can be wrong with the parameters by themselves, in the order in which it is looked
for. -/
def ownFaults (p : Asked) : List (Option String) :=
  [ absence "pool" p.pair,
    absence "source token" p.src,
    absence "destination token" p.dst,
    absence "source amount" p.amount,
    if Text.IsDecimalRow (text p.amount).toList then none
    else some "source amount must be a valid non-negative integer" ]

/-- All that is checked before the chain is called, in the order in which it is. -/
def faults (p : Asked) : List (Option String) :=
  p.ownFaults ++ QuoteRequest.faults (text p.pair) (text p.src) (text p.dst) p.amountIn

/-- The request that the parameters spell out. -/
def request (p : Asked) : QuoteRequest :=
  QuoteRequest.ofTexts (text p.pair) (text p.src) (text p.dst) p.amountIn

/-- The parameters are those of a request. -/
structure Spells (p : Asked) (request : QuoteRequest) : Prop where
  addresses : QuoteRequest.Spells (text p.pair) (text p.src) (text p.dst) request
  amount : request.amountIn = p.amountIn

end Asked

/-! ## The checks of the parameters -/

theorem requiredParameter_eq (fields : List (String × String)) (key name : String) :
    requiredParameter fields key name =
      ruling [Asked.absence name (parameter? fields key)]
        (Asked.text (parameter? fields key)) := by
  unfold requiredParameter Asked.absence
  cases parameter? fields key with
  | none => rfl
  | some value =>
    have htext : Asked.text (some value) = value := rfl
    rw [htext]
    by_cases h : value = ""
    · subst h
      rfl
    · have hempty : value.isEmpty = false := by simpa using h
      rw [if_neg h, Option.filter_some_pos (by rw [hempty]; rfl)]
      rfl

/-- An amount that is there is read if it consists of digits. -/
theorem amountOf_eq {text : String} (h : text ≠ "") :
    amountOf text =
      ruling [if Text.IsDecimalRow text.toList then none
        else some "source amount must be a valid non-negative integer"]
        (Text.decimalValue text.toList) := by
  have hempty : text.isEmpty = false := by simpa using h
  unfold amountOf Text.ofDecimal?
  rw [hempty, Text.valueOf?_ten]
  by_cases hdigits : Text.IsDecimalRow text.toList
  · rw [if_pos hdigits, if_pos hdigits]
    rfl
  · rw [if_neg hdigits, if_neg hdigits]
    rfl

theorem Asked.text_ne_of_absence {name : String} {value : Option String}
    (h : [Asked.absence name value].findSome? id = none) : Asked.text value ≠ "" := by
  intro hempty
  rw [Asked.absence, if_pos hempty] at h
  cases h

/-- The parameters are taken out of the fields, or their first fault is the answer. -/
theorem EstimateParams.ofFields_eq (fields : List (String × String)) :
    EstimateParams.ofFields fields =
      ruling (Asked.ofFields fields).ownFaults
        ⟨Asked.text (parameter? fields "pool"), Asked.text (parameter? fields "src"),
          Asked.text (parameter? fields "dst"), (Asked.ofFields fields).amountIn⟩ := by
  unfold EstimateParams.ofFields
  simp only [requiredParameter_eq]
  refine ruling_bind fun _ => ?_
  refine ruling_bind fun _ => ?_
  refine ruling_bind fun _ => ?_
  refine ruling_bind fun hpresent => ?_
  rw [amountOf_eq (Asked.text_ne_of_absence hpresent)]
  exact ruling_bind fun _ => rfl

/-- All that is checked before the chain is called. -/
def judge (fields : List (String × String)) : Except Refusal QuoteRequest := do
  let p ← EstimateParams.ofFields fields
  QuoteRequest.check p.pair p.src p.dst p.amount

/-- The first fault is the answer; without one the parameters spell out a request. -/
theorem judge_eq (fields : List (String × String)) :
    judge fields =
      ruling (Asked.ofFields fields).faults (Asked.ofFields fields).request := by
  unfold judge
  rw [EstimateParams.ofFields_eq]
  exact ruling_bind fun _ => QuoteRequest.check_eq _ _ _ _

theorem Asked.spells_request {p : Asked} (h : p.faults.findSome? id = none) :
    p.Spells p.request := by
  rw [Asked.faults, List.findSome?_append, Option.or_eq_none_iff] at h
  exact ⟨QuoteRequest.spells_ofTexts h.2, rfl⟩

/-! ## The answer -/

section Answer
variable {σ : Type} {source : ChainSource σ} {slash : LastSlash}
  {fields : List (String × String)} {desk : Desk σ}

/-- A request with a fault is refused before any call. -/
theorem Server.estimateFor_run_error {e : Refusal} (h : judge fields = .error e)
    (desk : Desk σ) : (Server.estimateFor source fields).run desk = (.error e, desk) := by
  cases hparams : EstimateParams.ofFields fields with
  | error e' =>
    rw [judge, hparams] at h
    obtain rfl : e' = e := Except.error.inj h
    exact run_bind_of_error (run_lift.trans (congrArg (·, desk) hparams))
  | ok p =>
    rw [judge, hparams] at h
    refine (run_bind_of_ok (run_lift.trans (congrArg (·, desk) hparams))).trans ?_
    exact estimate_run_error h desk

/-- A request without a fault is quoted. -/
theorem Server.estimateFor_run_ok {request : QuoteRequest} (h : judge fields = .ok request)
    (desk : Desk σ) :
    (Server.estimateFor source fields).run desk = (quote source request).run desk := by
  cases hparams : EstimateParams.ofFields fields with
  | error e =>
    rw [judge, hparams] at h
    cases h
  | ok p =>
    rw [judge, hparams] at h
    refine (run_bind_of_ok (run_lift.trans (congrArg (·, desk) hparams))).trans ?_
    exact estimate_run_ok h desk

/-- How a request for a quote with the parameters `p` is answered, and what becomes of the
desk, which keeps the calls that are made on the chain. -/
inductive Answered (source : ChainSource σ) (p : Asked) (desk desk' : Desk σ) : Response → Prop
  /-- A check fails: the first one is told, and nothing is called. -/
  | rejected {cause : String} (first : p.faults.findSome? id = some cause)
      (idle : desk' = desk) :
    Answered source p desk desk'
      ⟨400, "application/json", (RefusalReport.mk "VALIDATION_ERROR" "Request validation failed"
        (some ("Validation error: " ++ cause))).text⟩
  /-- The quote succeeds: its amount is told. -/
  | priced {request : QuoteRequest} {amount : Nat} (sound : p.faults.findSome? id = none)
      (spelled : p.Spells request)
      (made : (quote source request).run desk = (.ok amount, desk')) :
    Answered source p desk desk' ⟨200, "text/plain; charset=utf-8", toString amount⟩
  /-- The quote is refused: the kind of the refusal is told, and its full text unless the
  service is at fault. -/
  | refused {request : QuoteRequest} {e : Refusal} (sound : p.faults.findSome? id = none)
      (spelled : p.Spells request)
      (made : (quote source request).run desk = (.error e, desk')) :
    Answered source p desk desk'
      ⟨e.status, "application/json", (RefusalReport.mk e.code e.message
        (if e.status < 500 then some e.display else none)).text⟩

theorem Response.amount_eq (n : Nat) :
    Response.amount n = ⟨200, "text/plain; charset=utf-8", toString n⟩ :=
  congrArg (Response.mk 200 plainType) (Text.decimal_eq_toString n)

theorem Response.refusal_eq (e : Refusal) :
    Response.refusal e = ⟨e.status, "application/json", (RefusalReport.mk e.code e.message
      (if e.status < 500 then some e.display else none)).text⟩ := by
  unfold Response.refusal RefusalReport.ofRefusal
  by_cases h : e.status < 500 <;> simp [h, jsonType]

/-- **A request for a quote that is within the budget is answered by these rules.** -/
theorem Server.answered_answerEstimate (source : ChainSource σ)
    (fields : List (String × String)) (desk : Desk σ) :
    Answered source (Asked.ofFields fields) desk (answerEstimate source fields desk).2
      (answerEstimate source fields desk).1 := by
  have hjudge := judge_eq fields
  rw [answerEstimate_eq]
  cases hfirst : (Asked.ofFields fields).faults.findSome? id with
  | some cause =>
    rw [ruling_of_fault hfirst] at hjudge
    rw [estimateFor_run_error hjudge]
    exact .rejected hfirst rfl
  | none =>
    rw [ruling_of_sound hfirst] at hjudge
    rw [estimateFor_run_ok hjudge]
    -- What is left is the quote, with all that it does to the desk.
    have hspells := Asked.spells_request hfirst
    cases hquote : (quote source (Asked.ofFields fields).request).run desk with
    | mk result desk' =>
      cases result with
      | ok amount =>
        dsimp only [responseTo]
        rw [Response.amount_eq]
        exact .priced hfirst hspells hquote
      | error e =>
        dsimp only [responseTo]
        rw [Response.refusal_eq]
        exact .refused hfirst hspells hquote

/-! ## A run -/

/-- **Requests for quotes are answered by these rules in every run**: on every chain, after
whatever requests, with whatever parameters, each `GET` that is not refused for its budget. -/
theorem Server.answered (source : ChainSource σ) (slash : LastSlash) (s : Server σ)
    {requests : List (Request × Nat)} {n : Nat} {r : Request} {now : Nat} {response : Response}
    (hn : requests[n]? = some (r, now)) (hasks : r.AsksForQuote slash) (hget : r.method = .get)
    (hresponse : (s.run source slash requests).1[n]? = some response)
    (hwithin : response.status ≠ 429) :
    Answered source (Asked.ofFields r.query) (s.after source slash requests n).desk
      (s.after source slash requests (n + 1)).desk response := by
  rw [getElem?_run s hn] at hresponse
  obtain rfl := Option.some.inj hresponse
  rw [after_succ s hn]
  generalize s.after source slash requests n = found at hwithin ⊢
  cases hpass : (found.limiter.charge r.clientKey now).1 with
  | false =>
    rw [respond_of_refused hasks hpass] at hwithin
    exact absurd (status_sentFor r.method Response.tooManyRequests) hwithin
  | true =>
    -- A response to `GET` keeps its body.
    have hwhole : ∀ response : Response, response.sentFor .get = response := fun _ => if_neg nofun
    rw [respond_of_allowed hasks hpass, hget, hwhole]
    exact answered_answerEstimate source r.query found.desk

/-! ## One request of each kind -/

/-- The service that has answered one request, of the one that it gets a minute. -/
def Server.afterFirst (chain : TableChain) (r : Request) : Server TableChain :=
  (Server.new 1 chain).after TableChain.source .ignored [(r, 0)] 1

/-- A request for a quote that a service with one request a minute gets first, the response to it
and the calls that are made for it. -/
structure ToldFirst (chain : TableChain) (r : Request) (response : Response)
    (calls : List Call) : Prop where
  asks : r.AsksForQuote .ignored
  get : r.method = .get
  told : ((Server.new 1 chain).run TableChain.source .ignored [(r, 0)]).1[0]? = some response
  within : response.status ≠ 429
  answered : Answered TableChain.source (Asked.ofFields r.query) (Server.new 1 chain).desk
    (Server.afterFirst chain r).desk response
  calls : (Server.afterFirst chain r).desk.observed.calls = calls

/-- The first request is within the budget. -/
theorem Server.respond_first {r : Request} (hasks : r.AsksForQuote .ignored)
    (hget : r.method = .get) (chain : TableChain) :
    ((new 1 chain).run TableChain.source .ignored [(r, 0)]).1[0]? =
        some (answerEstimate TableChain.source r.query (new 1 chain).desk).1 ∧
      (afterFirst chain r).desk =
        (answerEstimate TableChain.source r.query (new 1 chain).desk).2 := by
  have hpass : ((new 1 chain).limiter.charge r.clientKey 0).1 = true := by
    simp [Limiter.passes_charge, new, Limiter.new, Window.current, Window.start]
  have hrespond : respond TableChain.source .ignored (new 1 chain) r 0 = _ :=
    respond_of_allowed hasks hpass
  have hafter : afterFirst chain r = (respond TableChain.source .ignored (new 1 chain) r 0).2 :=
    after_succ _ rfl
  -- A response to `GET` keeps its body.
  have hwhole : ∀ response : Response, response.sentFor .get = response := fun _ => if_neg nofun
  rw [hget, hwhole] at hrespond
  constructor
  · rw [getElem?_run _ rfl]
    exact congrArg (fun answer => some answer.1) hrespond
  · rw [hafter, hrespond]

/-- A request with several faults: an amount that is no row of digits, a pair that is no
address, two source tokens and an empty destination token. -/
def carelessRequest : Request :=
  ⟨.get, "/estimate?src_amount=1e3&pool=0x12&src=&src=0x0&dst", [], none⟩

/-- A sound request for a quote. -/
def soundRequest : Request :=
  { target := "/estimate?src_amount=5&pool=0x0d4a11d5eeaac28ec3f61d100daf4d40471f1852" ++
      "&src=0xdac17f958d2ee523a2206206994597c13d831ec7" ++
      "&dst=0xc02aaa39b223fe8d0a0e5c4f27ead9083c756cc2" }

theorem asksForQuote_soundRequest : soundRequest.AsksForQuote .ignored := by decide +kernel

theorem query_soundRequest : soundRequest.query =
    [("src_amount", "5"), ("pool", "0x0d4a11d5eeaac28ec3f61d100daf4d40471f1852"),
      ("src", "0xdac17f958d2ee523a2206206994597c13d831ec7"),
      ("dst", "0xc02aaa39b223fe8d0a0e5c4f27ead9083c756cc2")] := by
  decide +kernel

/-- The address of the pair that the sound request names. -/
def soundPair : Address := ⟨0x0d4a11d5eeaac28ec3f61d100daf4d40471f1852⟩

/-- A chain with that pair, which holds a million of the source token and twice as many of the
other. -/
def soundChain : TableChain where
  head := 7
  slots :=
    [((soundPair, 6), ⟨0xdac17f958d2ee523a2206206994597c13d831ec7⟩),
      ((soundPair, 7), ⟨0xc02aaa39b223fe8d0a0e5c4f27ead9083c756cc2⟩),
      ((soundPair, 8), ⟨0x1e848000000000000000000000000f4240⟩)]

/-- Of several faults the one that is looked for first is told, which is not the first one in
the query, and nothing is called; a sound request is told its amount, after four calls at one
block; and where there is no such pair, it is told so after three. -/
theorem Server.answered_of_each_kind :
    ToldFirst soundChain carelessRequest ⟨400, "application/json",
        "\x7b\"error\":\x7b\"code\":\"VALIDATION_ERROR\"," ++
          "\"message\":\"Request validation failed\"," ++
          "\"details\":\"Validation error: source token parameter is required\"\x7d\x7d"⟩ [] ∧
      ToldFirst soundChain soundRequest ⟨200, "text/plain; charset=utf-8", "9"⟩
        [.latest, .read soundPair 6 7, .read soundPair 7 7, .read soundPair 8 7] ∧
      ToldFirst {} soundRequest ⟨404, "application/json",
        "\x7b\"error\":\x7b\"code\":\"NOT_FOUND\"," ++
          "\"message\":\"Requested resource not found\"," ++
          "\"details\":\"Not found: pool 0x0d4a11d5eeaac28ec3f61d100daf4d40471f1852 at " ++
          "block 0\"\x7d\x7d"⟩
        [.latest, .read soundPair 6 0, .read soundPair 7 0] := by
  have htold : ∀ {chain : TableChain} {r : Request} {response : Response} {calls : List Call},
      r.AsksForQuote .ignored → r.method = .get → response.status ≠ 429 →
      (answerEstimate TableChain.source r.query (new 1 chain).desk).1 = response →
      (answerEstimate TableChain.source r.query (new 1 chain).desk).2.observed.calls = calls →
        ToldFirst chain r response calls := by
    intro chain r response calls hasks hget hwithin hanswer hcalls
    obtain ⟨hfirst, hdesk⟩ := respond_first hasks hget chain
    rw [hanswer] at hfirst
    refine ⟨hasks, hget, hfirst, hwithin, ?_, hdesk ▸ hcalls⟩
    exact answered TableChain.source .ignored (new 1 chain) rfl hasks hget hfirst hwithin
  refine ⟨?_, ?_, ?_⟩
  · exact htold (by decide +kernel) rfl (by decide) (by decide +kernel) (by decide +kernel)
  · refine htold asksForQuote_soundRequest rfl (by decide) ?_ ?_
    all_goals rw [query_soundRequest]; decide +kernel
  · refine htold asksForQuote_soundRequest rfl (by decide) ?_ ?_
    all_goals rw [query_soundRequest]; decide +kernel

end Answer

end PairQuote.Http
