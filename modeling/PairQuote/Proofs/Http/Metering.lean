import PairQuote.Chain.Table
import PairQuote.Proofs.Http.Run
import PairQuote.Proofs.Limiter.Isolation

/-! # What the limiter sees of a run

A run of the service feeds its limiter with the clients and times of the requests for quotes
— the **charges** — and with nothing else (`Server.limiter_run`).  So who is refused can be
told from a limiter alone: a request has the status 429 if and only if it asks for a quote
and the limiter that sees the charges in turn does not let it pass.
-/
namespace PairQuote

namespace Limiter
variable {l : Limiter} {client : String} {now : Nat}

/-- Each request is let pass or not by the limiter that the requests before it have left. -/
theorem getElem?_answers_run {requests : List (String × Nat)} {n : Nat}
    (h : requests[n]? = some (client, now)) :
    (l.run requests).1[n]? = some ((l.run (requests.take n)).2.charge client now).1 := by
  induction requests generalizing l n with
  | nil => cases h
  | cons request requests ih =>
    obtain ⟨who, time⟩ := request
    cases n with
    | zero =>
      cases h
      rfl
    | succ n => exact ih h

end Limiter

namespace Http
variable {slash : LastSlash} {requests : List (Request × Nat)} {r : Request} {now : Nat}

/-! ## Charges -/

/-- The clients and times of the requests for quotes, in turn. -/
def charges (slash : LastSlash) (requests : List (Request × Nat)) : List (String × Nat) :=
  (requests.filter (·.1.AsksForQuote slash)).map fun request => (request.1.clientKey, request.2)

theorem charges_cons_asking (h : r.AsksForQuote slash) :
    charges slash ((r, now) :: requests) = (r.clientKey, now) :: charges slash requests := by
  rw [charges, List.filter_cons_of_pos (by simpa using h), List.map_cons]
  rfl

theorem charges_cons_other (h : ¬r.AsksForQuote slash) :
    charges slash ((r, now) :: requests) = charges slash requests := by
  rw [charges, List.filter_cons_of_neg (by simpa using h)]
  rfl

theorem charges_append (first second : List (Request × Nat)) :
    charges slash (first ++ second) = charges slash first ++ charges slash second := by
  unfold charges
  rw [List.filter_append, List.map_append]

/-- A request for a quote is the charge that as many charges precede as requests for quotes
have come before it. -/
theorem getElem?_charges {n : Nat} (hn : requests[n]? = some (r, now))
    (h : r.AsksForQuote slash) :
    (charges slash requests)[(charges slash (requests.take n)).length]? =
        some (r.clientKey, now) ∧
      (charges slash requests).take (charges slash (requests.take n)).length =
        charges slash (requests.take n) := by
  obtain ⟨hlt, hget⟩ := List.getElem?_eq_some_iff.mp hn
  have hsplit : charges slash requests = charges slash (requests.take n) ++
      (r.clientKey, now) :: charges slash (requests.drop (n + 1)) := by
    rw [← charges_cons_asking h, ← hget, ← List.drop_eq_getElem_cons hlt, ← charges_append,
      List.take_append_drop]
  rw [hsplit, List.getElem?_append_right (Nat.le_refl _), Nat.sub_self]
  exact ⟨rfl, List.take_left⟩

/-- What a limiter that sees only the charges of a run says to the charge of a request; the
requests before it tell which charge that is. -/
def verdict (slash : LastSlash) (budget : Nat) (requests : List (Request × Nat)) (n : Nat) :
    Option Bool :=
  ((Limiter.new budget).run (charges slash requests)).1[(charges slash
    (requests.take n)).length]?

theorem verdict_eq {budget n : Nat} (hn : requests[n]? = some (r, now))
    (h : r.AsksForQuote slash) :
    verdict slash budget requests n = some
      (((Limiter.new budget).run (charges slash (requests.take n))).2.charge r.clientKey
        now).1 := by
  obtain ⟨hcharge, htake⟩ := getElem?_charges hn h
  rw [verdict, Limiter.getElem?_answers_run hcharge, htake]

namespace Server
variable {σ : Type} {source : ChainSource σ} {s : Server σ}

/-! ## One request -/

/-- What a request has to do with the limiter and the desk, when the limiter says `verdict`
to its charge, if it is charged, and it is answered with `status`. -/
structure Metered (slash : LastSlash) (verdict : Option Bool) (r : Request) (now : Nat)
    (s s' : Server σ) (status : Nat) : Prop where
  /-- It is refused exactly if it asks for a quote and the limiter says no. -/
  refused : status = 429 ↔ r.AsksForQuote slash ∧ verdict = some false
  /-- A request for a quote is charged once to its client, with whatever parameters it comes
  and whatever the answer is. -/
  charged : r.AsksForQuote slash → s'.limiter = (s.limiter.charge r.clientKey now).2
  /-- Any other request changes nothing. -/
  spared : ¬r.AsksForQuote slash → s' = s
  /-- A refused request makes no call, and leaves the chain and the pool as they are. -/
  silent : status = 429 → s'.desk = s.desk
  /-- No other status is ever answered. -/
  known : status ∈ [200, 400, 404, 429, 502]

/-- **Every request is metered by the limiter that it finds.** -/
theorem metered_respond (source : ChainSource σ) (slash : LastSlash) (s : Server σ) (r : Request)
    (now : Nat) :
    Metered slash (some (s.limiter.charge r.clientKey now).1) r now s
      (respond source slash s r now).2 (respond source slash s r now).1.status := by
  rcases respond_cases source slash s r now with
    ⟨hother, hleft, hstatus⟩ | ⟨hasks, hpass, hleft, hstatus⟩ | ⟨hasks, hrefused, hleft, hstatus⟩
  · have hne : (respond source slash s r now).1.status ≠ 429 :=
      ne_of_mem_of_not_mem hstatus (by decide)
    constructor
    · exact iff_of_false hne fun h => hother h.1
    · exact fun h => absurd h hother
    · exact fun _ => hleft
    · exact fun h => absurd h hne
    · simp only [List.mem_cons, List.not_mem_nil, or_false] at hstatus ⊢
      omega
  · have hne : (respond source slash s r now).1.status ≠ 429 :=
      ne_of_mem_of_not_mem hstatus (by decide)
    constructor
    · exact iff_of_false hne (by simp [hpass])
    · exact fun _ => congrArg Server.limiter hleft
    · exact fun h => absurd hasks h
    · exact fun h => absurd h hne
    · simp only [List.mem_cons, List.not_mem_nil, or_false] at hstatus ⊢
      omega
  · constructor
    · exact iff_of_true hstatus ⟨hasks, congrArg some hrefused⟩
    · exact fun _ => congrArg Server.limiter hleft
    · exact fun h => absurd hasks h
    · intro _
      rw [hleft]
    · rw [hstatus]
      simp

/-! ## A run -/

/-- **The limiter sees the charges of a run and nothing else.** -/
theorem limiter_run (source : ChainSource σ) (slash : LastSlash) (s : Server σ)
    (requests : List (Request × Nat)) : (s.run source slash requests).2.limiter =
      (s.limiter.run (charges slash requests)).2 := by
  induction requests generalizing s with
  | nil => rfl
  | cons request requests ih =>
    obtain ⟨r, now⟩ := request
    rw [run_cons, ih]
    by_cases hasks : r.AsksForQuote slash
    · rw [(metered_respond source slash s r now).charged hasks, charges_cons_asking hasks,
        Limiter.run_cons]
    · rw [(metered_respond source slash s r now).spared hasks, charges_cons_other hasks]

/-- **The metering of requests.**  In every run of a new service, at whatever times and under
either rule for a slash at the end of a path, the limiter is at every moment a new one that has
seen the charges until then, and every request is answered once and metered by what a limiter
that sees nothing but the charges of the run says to them. -/
theorem metered (source : ChainSource σ) (slash : LastSlash) (budget : Nat) (chain : σ)
    (requests : List (Request × Nat)) :
    (∀ n, ((new budget chain).after source slash requests n).limiter =
      ((Limiter.new budget).run (charges slash (requests.take n))).2) ∧
    ((new budget chain).run source slash requests).1.length = requests.length ∧
    ∀ n r now response, requests[n]? = some (r, now) →
      ((new budget chain).run source slash requests).1[n]? = some response →
        Metered slash (verdict slash budget requests n) r now
          ((new budget chain).after source slash requests n)
          ((new budget chain).after source slash requests (n + 1)) response.status := by
  have hlimiter : ∀ n, ((new budget chain).after source slash requests n).limiter =
      ((Limiter.new budget).run (charges slash (requests.take n))).2 :=
    fun n => limiter_run source slash (new budget chain) (requests.take n)
  refine ⟨hlimiter, length_run _ _, ?_⟩
  intro n r now response hn hresponse
  rw [getElem?_run _ hn] at hresponse
  obtain rfl := Option.some.inj hresponse
  rw [after_succ _ hn]
  have hstep :=
    metered_respond source slash ((new budget chain).after source slash requests n) r now
  refine { hstep with refused := hstep.refused.trans (and_congr_right fun hasks => ?_) }
  rw [hlimiter, verdict_eq hn hasks]

/-- Four requests of one client: for a quote, for the state of the service, with a slash at the
end, and for a quote again. -/
def fourRequests : List (Request × Nat) :=
  [(⟨.get, "/estimate", [], none⟩, 0), (⟨.get, "/health", [], none⟩, 5),
    (⟨.get, "/estimate/", [], none⟩, 7), (⟨.head, "/estimate?src_amount=1", [], none⟩, 10)]

/-- With one request a minute, a question about the state of the service is not charged, nor is
a path that goes on behind a slash, and the next request for a quote is refused. -/
theorem metered_of_four_requests :
    charges .counted fourRequests = [("unknown", 0), ("unknown", 10)] ∧
      charges .ignored fourRequests = [("unknown", 0), ("unknown", 7), ("unknown", 10)] ∧
      verdict .counted 1 fourRequests 3 = some false ∧
      (new 1 {}).after TableChain.source .counted fourRequests 3 =
        (new 1 {}).after TableChain.source .counted fourRequests 1 ∧
      ((new 1 {}).run TableChain.source .counted fourRequests).1[3]?.map (·.status) =
        some 429 := by
  have hcharges : charges .counted fourRequests = [("unknown", 0), ("unknown", 10)] := by
    decide +kernel
  have hbefore : (charges .counted (fourRequests.take 3)).length = 1 := by decide +kernel
  have hverdict : verdict .counted 1 fourRequests 3 = some false := by
    rw [verdict, hcharges, hbefore, ← Limiter.map_allowed_log]
    simp [Limiter.passes_charge, Limiter.windows_charge_self, Limiter.new,
      Window.current, Window.counted, Window.start, Window.isLive, Window.length]
  have hhealth : ¬(⟨.get, "/health", [], none⟩ : Request).AsksForQuote .counted := by
    decide +kernel
  have hbehind : ¬(⟨.get, "/estimate/", [], none⟩ : Request).AsksForQuote .counted := by
    decide +kernel
  have hasks : (⟨.head, "/estimate?src_amount=1", [], none⟩ : Request).AsksForQuote .counted := by
    decide +kernel
  have hlast : ((new 1 {}).run TableChain.source .counted fourRequests).1[3]? = some _ :=
    getElem?_run _ rfl
  obtain ⟨-, -, hmetered⟩ := metered TableChain.source .counted 1 {} fourRequests
  have hone := (hmetered 1 _ _ _ rfl (getElem?_run _ rfl)).spared hhealth
  have htwo := (hmetered 2 _ _ _ rfl (getElem?_run _ rfl)).spared hbehind
  have hthree := hmetered 3 _ _ _ rfl hlast
  refine ⟨hcharges, by decide +kernel, hverdict, htwo.trans hone, ?_⟩
  rw [hlast]
  exact congrArg some (hthree.refused.mpr ⟨hasks, hverdict⟩)

end Server

end Http

end PairQuote
