import Mathlib.Data.List.Forall2
import PairQuote.Proofs.Http.Metering
import PairQuote.Proofs.Limiter.Alike
import PairQuote.Proofs.Text.Pieces

/-! # Who a request is counted for

The key of a request is all that the budget knows of its client.  Behind the forwarding
header everything else that could tell where a request comes from is hidden, and so is the
rest of that header; without it a readable real address hides the remote one
(`Request.SameClient`).  What is hidden changes no response, as the service looks at the
method, the target, the accepted types and the key of a request only (`Server.respond_congr`).

And a client has its budget for itself: the requests for quotes of other clients can be struck
from a run, and the client is refused where it was before (`Server.refusals_withoutOthers`).
The limiters of the two runs are kept `AlikeFor` the client by each of its requests, and by
each request that is struck.
-/
namespace PairQuote.Http

/-! ## Requests of the same client -/

/-- A row that stands in front of the first comma of a value, perhaps between blanks. -/
inductive StandsFirst (core : List Char) : List Char → Prop
  | alone {before after : List Char} (hbefore : ∀ c ∈ before, Text.isBlank c = true)
      (hafter : ∀ c ∈ after, Text.isBlank c = true) :
    StandsFirst core (before ++ core ++ after)
  | listed {before after rest : List Char} (hbefore : ∀ c ∈ before, Text.isBlank c = true)
      (hafter : ∀ c ∈ after, Text.isBlank c = true) :
    StandsFirst core (before ++ core ++ after ++ ',' :: rest)

theorem comma_not_mem_of_blank {row : List Char} (h : ∀ c ∈ row, Text.isBlank c = true) :
    ',' ∉ row :=
  fun hmem => absurd (h ',' hmem) (by decide)

theorem StandsFirst.trim_eq {core value : List Char} (h : StandsFirst core value)
    (hcore : ',' ∉ core) : Text.trim (Text.cut ',' value).1 = Text.trim core := by
  have hrow : ∀ before after : List Char, (∀ c ∈ before, Text.isBlank c = true) →
      (∀ c ∈ after, Text.isBlank c = true) → ',' ∉ before ++ core ++ after := by
    intro before after hbefore hafter
    rw [List.mem_append, List.mem_append]
    rintro ((hmem | hmem) | hmem)
    · exact comma_not_mem_of_blank hbefore hmem
    · exact hcore hmem
    · exact comma_not_mem_of_blank hafter hmem
  cases h with
  | alone hbefore hafter =>
    rw [Text.cut_of_not_mem (hrow _ _ hbefore hafter), Text.trim_between_blanks hbefore hafter]
  | listed hbefore hafter =>
    rw [Text.cut_append (hrow _ _ hbefore hafter), Text.trim_between_blanks hbefore hafter]

namespace Request
variable {r r' : Request}

/-- The headers that can tell the client. -/
def tellsClient (h : String × String) : Bool :=
  Text.sameLetters h.1 "X-Forwarded-For" || Text.sameLetters h.1 "X-Real-IP"

/-- The headers that have nothing to do with the client. -/
def otherHeaders (r : Request) : List (String × String) :=
  r.headers.filter fun h => !tellsClient h

/-- The first forwarding header names a client before its first comma. -/
structure Forwards (core : List Char) (r : Request) : Prop where
  named : ∃ value : String, r.header? "X-Forwarded-For" = some value ∧
    StandsFirst core value.toList
  whole : ',' ∉ core

/-- Two requests that differ only in what cannot make another client of them. -/
inductive SameClient : Request → Request → Prop
  /-- Nothing is changed. -/
  | same (r : Request) : SameClient r r
  /-- Both forwarding headers name the same; what they say after the first comma, the blanks
  around the name, all later forwarding headers, the real address and the remote one are
  arbitrary. -/
  | forwarded {r r' : Request} {core : List Char} (method : r.method = r'.method)
      (target : r.target = r'.target) (headers : r.otherHeaders = r'.otherHeaders)
      (first : r.Forwards core) (first' : r'.Forwards core) : SameClient r r'
  /-- Without a forwarding header, but with a real address that can be read, the remote one is
  arbitrary. -/
  | real {r r' : Request} {ip : IpAddress} (method : r.method = r'.method)
      (target : r.target = r'.target) (headers : r.headers = r'.headers)
      (unforwarded : r.header? "X-Forwarded-For" = none)
      (readable : (r.header? "X-Real-IP").bind IpAddress.ofText? = some ip) : SameClient r r'

/-- A header that does not tell the client is found among the others. -/
theorem header?_eq_of_otherHeaders {name : String}
    (hname : ∀ h : String × String, Text.sameLetters h.1 name = true → tellsClient h = false)
    (h : r.otherHeaders = r'.otherHeaders) : r.header? name = r'.header? name := by
  have hfind : ∀ headers : List (String × String),
      (headers.filter fun h => !tellsClient h).find? (fun h => Text.sameLetters h.1 name) =
        headers.find? fun h => Text.sameLetters h.1 name := by
    intro headers
    rw [List.find?_filter]
    refine congrArg (headers.find? ·) (funext fun h => ?_)
    cases hsame : Text.sameLetters h.1 name with
    | true => rw [hname h hsame]; rfl
    | false => simp
  have hheaders : (r.headers.filter fun h => !tellsClient h) =
      r'.headers.filter fun h => !tellsClient h := h
  unfold header?
  rw [← hfind r.headers, ← hfind r'.headers, hheaders]

theorem tellsClient_eq_false_of_accept (h : String × String)
    (hname : Text.sameLetters h.1 "Accept" = true) : tellsClient h = false := by
  have hlower : Text.lower h.1.toList = Text.lower "Accept".toList := eq_of_beq hname
  unfold tellsClient Text.sameLetters
  rw [hlower]
  decide

theorem clientKey_of_forwards {core : List Char} (h : r.Forwards core) :
    r.clientKey = String.ofList (Text.trim core) := by
  obtain ⟨⟨value, hvalue, hfirst⟩, hcore⟩ := h
  unfold clientKey
  rw [hvalue]
  exact congrArg String.ofList (hfirst.trim_eq hcore)

end Request

/-! ## What the service looks at -/

namespace Server
variable {σ : Type} {source : ChainSource σ} {slash : LastSlash} {r r' : Request}

/-- A request is its method, its target, the types it accepts and its key. -/
theorem respond_congr (hmethod : r.method = r'.method) (htarget : r.target = r'.target)
    (haccept : r.header? "Accept" = r'.header? "Accept") (hkey : r.clientKey = r'.clientKey)
    (s : Server σ) (now : Nat) : respond source slash s r now = respond source slash s r' now := by
  have hroute : r.route? slash = r'.route? slash := by
    unfold Request.route?
    rw [hmethod, htarget]
  have hquery : r.query = r'.query := by
    unfold Request.query
    rw [htarget]
  have hfault : ∀ f : Response.Fault, Response.fault f r = Response.fault f r' := by
    intro f
    unfold Response.fault
    rw [haccept]
  unfold respond answer
  rw [hmethod, htarget, hroute, hquery, hkey, hfault, hfault]

/-- **What cannot make another client of a request changes nothing at all.** -/
theorem respond_of_sameClient (h : r.SameClient r') (s : Server σ) (now : Nat) :
    respond source slash s r now = respond source slash s r' now := by
  cases h with
  | same => rfl
  | forwarded method target headers first first' =>
    refine respond_congr method target ?_ ?_ s now
    · exact Request.header?_eq_of_otherHeaders Request.tellsClient_eq_false_of_accept headers
    · rw [Request.clientKey_of_forwards first, Request.clientKey_of_forwards first']
  | real method target headers unforwarded readable =>
    have hheader : ∀ name, r'.header? name = r.header? name := by
      intro name
      rw [Request.header?, Request.header?, headers]
    refine respond_congr method target (hheader _).symm ?_ s now
    unfold Request.clientKey Request.address?
    rw [hheader, hheader, unforwarded, readable]
    rfl

/-! ## Runs -/

/-- Requests of the same clients at the same times have the same responses. -/
theorem run_of_sameClients {requests requests' : List (Request × Nat)}
    (h : List.Forall₂ (fun q q' => q.1.SameClient q'.1 ∧ q.2 = q'.2) requests requests')
    (s : Server σ) : s.run source slash requests = s.run source slash requests' := by
  induction h generalizing s with
  | nil => rfl
  | @cons q q' requests requests' hhead htail ih =>
    obtain ⟨r, now⟩ := q
    obtain ⟨r', now'⟩ := q'
    obtain ⟨hsame, rfl⟩ := hhead
    rw [run_cons, run_cons, respond_of_sameClient hsame, ih]

/-- The request is for a quote, and of another client. -/
def OfAnother (slash : LastSlash) (client : String) (r : Request) : Prop :=
  r.AsksForQuote slash ∧ r.clientKey ≠ client

instance (client : String) (r : Request) : Decidable (OfAnother slash client r) :=
  inferInstanceAs (Decidable (_ ∧ _))

/-- The requests without those for quotes of other clients. -/
def withoutOthers (slash : LastSlash) (client : String) (requests : List (Request × Nat)) :
    List (Request × Nat) :=
  requests.filter fun q => ¬OfAnother slash client q.1

/-- Whether the requests of a client are refused for its budget, in turn. -/
def refusals (client : String) (requests : List (Request × Nat)) (responses : List Response) :
    List Bool :=
  ((requests.zip responses).filter (·.1.1.clientKey = client)).map (·.2.status = 429)

section Refusals
variable {client : String} {now : Nat} {requests : List (Request × Nat)} {response : Response}
  {responses : List Response}

theorem refusals_cons_own (h : r.clientKey = client) :
    refusals client ((r, now) :: requests) (response :: responses) =
      decide (response.status = 429) :: refusals client requests responses := by
  rw [refusals, List.zip_cons_cons, List.filter_cons_of_pos (by simpa using h)]
  rfl

theorem refusals_cons_other (h : r.clientKey ≠ client) :
    refusals client ((r, now) :: requests) (response :: responses) =
      refusals client requests responses := by
  rw [refusals, List.zip_cons_cons, List.filter_cons_of_neg (by simpa using h)]
  rfl

/-- A request that both services get and that is not for a quote of another client. -/
theorem alikeFor_respond {s s' : Server σ} (h : s.limiter.AlikeFor client now s'.limiter)
    (hown : ¬OfAnother slash client r) :
    ((respond source slash s r now).1.status = 429 ↔
        (respond source slash s' r now).1.status = 429) ∧
      (respond source slash s r now).2.limiter.AlikeFor client now
        (respond source slash s' r now).2.limiter := by
  have hmetered := metered_respond source slash s r now
  have hmetered' := metered_respond source slash s' r now
  rw [hmetered.refused, hmetered'.refused]
  by_cases hasks : r.AsksForQuote slash
  · obtain rfl : r.clientKey = client := by_contra fun hne => hown ⟨hasks, hne⟩
    rw [hmetered.charged hasks, hmetered'.charged hasks, h.passes_eq]
    exact ⟨Iff.rfl, h.charge_self⟩
  · rw [hmetered.spared hasks, hmetered'.spared hasks]
    exact ⟨iff_of_false (fun hno => hasks hno.1) fun hno => hasks hno.1, h⟩

/-- **The requests of other clients can be struck from a run.** -/
theorem refusals_withoutOthers {s s' : Server σ} {start : Nat}
    (halike : s.limiter.AlikeFor client start s'.limiter)
    (sorted : requests.Pairwise (·.2 ≤ ·.2)) (hstart : ∀ q ∈ requests, start ≤ q.2) :
    refusals client requests (s.run source slash requests).1 =
      refusals client (withoutOthers slash client requests)
        (s'.run source slash (withoutOthers slash client requests)).1 := by
  induction requests generalizing s s' start with
  | nil => rfl
  | cons q requests ih =>
    obtain ⟨r, now⟩ := q
    obtain ⟨hnow, hsorted⟩ := List.pairwise_cons.mp sorted
    have halike := halike.of_le (hstart _ List.mem_cons_self)
    by_cases hother : OfAnother slash client r
    · -- The request is there in the first run only.
      have hstruck : withoutOthers slash client ((r, now) :: requests) =
          withoutOthers slash client requests := List.filter_cons_of_neg (by simpa using hother)
      rw [hstruck, run_cons, refusals_cons_other hother.2]
      refine ih ?_ hsorted hnow
      rw [(metered_respond source slash s r now).charged hother.1]
      exact halike.charge_other hother.2
    · -- Both runs have it, perhaps as a request of another client for something else.
      have hkept : withoutOthers slash client ((r, now) :: requests) =
          (r, now) :: withoutOthers slash client requests :=
        List.filter_cons_of_pos (by simpa using hother)
      obtain ⟨hstatus, hleft⟩ : _ ∧
          (respond source slash s r now).2.limiter.AlikeFor client now _ :=
        alikeFor_respond halike hother
      have hrest := ih hleft hsorted hnow
      rw [hkept, run_cons, run_cons]
      by_cases hkey : r.clientKey = client
      · rw [refusals_cons_own hkey, refusals_cons_own hkey, hrest, decide_eq_decide.mpr hstatus]
      · rw [refusals_cons_other hkey, refusals_cons_other hkey, hrest]

end Refusals

/-- **Who a request is counted for.**  In every run of a new service nothing depends on what
cannot make another client of a request; and whether a client is refused for its budget does
not depend on the requests for quotes of other clients, as long as time does not run
backwards. -/
theorem identified (source : ChainSource σ) (slash : LastSlash) (budget : Nat) (chain : σ) :
    (∀ requests requests' : List (Request × Nat),
      List.Forall₂ (fun q q' => q.1.SameClient q'.1 ∧ q.2 = q'.2) requests requests' →
        ((new budget chain).run source slash requests).1 =
          ((new budget chain).run source slash requests').1) ∧
    ∀ (client : String) (requests requests' : List (Request × Nat)),
      requests.Pairwise (·.2 ≤ ·.2) → requests'.Pairwise (·.2 ≤ ·.2) →
      withoutOthers slash client requests = withoutOthers slash client requests' →
        refusals client requests ((new budget chain).run source slash requests).1 =
          refusals client requests' ((new budget chain).run source slash requests').1 := by
  constructor
  · intro requests requests' h
    rw [run_of_sameClients h]
  · intro client requests requests' sorted sorted' hcommon
    -- Both runs are compared with the one that only has what they have in common.
    have hstruck : ∀ requests : List (Request × Nat), requests.Pairwise (·.2 ≤ ·.2) →
        refusals client requests ((new budget chain).run source slash requests).1 =
          refusals client (withoutOthers slash client requests)
            ((new budget chain).run source slash (withoutOthers slash client requests)).1 :=
      fun _ sorted => refusals_withoutOthers (.refl client 0 _) sorted fun _ _ => Nat.zero_le _
    rw [hstruck requests sorted, hstruck requests' sorted', hcommon]

/-- A request through two proxies. -/
def proxiedRequest : Request :=
  { target := "/estimate"
    headers := [("x-forwarded-for", " 203.0.113.9 , 10.0.0.1"), ("X-Real-IP", "10.0.0.2")] }

/-- A request that names the same client in another way, and others after it. -/
def disguisedRequest : Request :=
  { target := "/estimate"
    headers := [("X-Forwarded-For", "203.0.113.9"), ("X-Forwarded-For", "198.51.100.7")]
    remote := some (.v4 0) }

/-- A request of nobody known. -/
def anonymousRequest : Request := { target := "/estimate" }

/-- With one request a minute, neither another name nor another client in between gives a
client a second one. -/
theorem identified_of_disguised_request :
    ((new 1 {}).run TableChain.source .ignored [(proxiedRequest, 0), (disguisedRequest, 5)]).1 =
        ((new 1 {}).run TableChain.source .ignored [(proxiedRequest, 0), (proxiedRequest, 5)]).1 ∧
      refusals "203.0.113.9"
          [(proxiedRequest, 0), (anonymousRequest, 1), (disguisedRequest, 5)]
          ((new 1 {}).run TableChain.source .ignored
            [(proxiedRequest, 0), (anonymousRequest, 1), (disguisedRequest, 5)]).1 =
        [false, true] := by
  obtain ⟨hnames, hothers⟩ := identified TableChain.source .ignored 1 {}
  have hproxied : proxiedRequest.Forwards "203.0.113.9".toList := by
    refine ⟨⟨" 203.0.113.9 , 10.0.0.1", by decide +kernel, ?_⟩, by decide +kernel⟩
    have hblank : ∀ c ∈ [' '], Text.isBlank c = true := List.forall_mem_singleton.mpr rfl
    exact @StandsFirst.listed _ [' '] [' '] " 10.0.0.1".toList hblank hblank
  have hdisguised : disguisedRequest.Forwards "203.0.113.9".toList := by
    refine ⟨⟨"203.0.113.9", by decide +kernel, ?_⟩, by decide +kernel⟩
    exact @StandsFirst.alone _ [] [] nofun nofun
  have hsame : disguisedRequest.SameClient proxiedRequest :=
    .forwarded rfl rfl (by decide +kernel) hdisguised hproxied
  refine ⟨hnames _ _ (.cons ⟨.same _, rfl⟩ (.cons ⟨hsame, rfl⟩ .nil)), ?_⟩
  have hkey : proxiedRequest.clientKey = "203.0.113.9" := by decide +kernel
  have hkey' : disguisedRequest.clientKey = "203.0.113.9" := by decide +kernel
  have hasks : proxiedRequest.AsksForQuote .ignored := by decide +kernel
  have hasks' : disguisedRequest.AsksForQuote .ignored := by decide +kernel
  have hanother : OfAnother .ignored "203.0.113.9" anonymousRequest := by decide +kernel
  have hcommon : withoutOthers .ignored "203.0.113.9"
      [(proxiedRequest, 0), (anonymousRequest, 1), (disguisedRequest, 5)] =
        withoutOthers .ignored "203.0.113.9" [(proxiedRequest, 0), (disguisedRequest, 5)] := by
    simp [withoutOthers, List.filter_cons, hanother]
  rw [hothers _ _ _ (by decide) (by decide) hcommon, run_cons, run_cons, run_nil,
    refusals_cons_own hkey, refusals_cons_own hkey']
  have hfirst := metered_respond TableChain.source .ignored (new 1 {}) proxiedRequest 0
  have hsecond := metered_respond TableChain.source .ignored
    (respond TableChain.source .ignored (new 1 {}) proxiedRequest 0).2 disguisedRequest 5
  rw [hkey] at hfirst
  rw [hkey', hfirst.charged hasks, hkey] at hsecond
  have hpass : ((new 1 ({} : TableChain)).limiter.charge "203.0.113.9" 0).1 = true := by
    simp [Limiter.passes_charge, new, Limiter.new, Window.current, Window.start]
  have hfull : (((new 1 ({} : TableChain)).limiter.charge "203.0.113.9" 0).2.charge
      "203.0.113.9" 5).1 = false := by
    simp [Limiter.passes_charge, Limiter.windows_charge_self, new, Limiter.new, Window.current,
      Window.counted, Window.start, Window.isLive, Window.length]
  rw [decide_eq_false (hfirst.refused.not.mpr fun h => by simp [hpass] at h),
    decide_eq_true (hsecond.refused.mpr ⟨hasks', by rw [hfull]⟩)]
  rfl

end Server

end PairQuote.Http
