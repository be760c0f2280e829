import PairQuote.Proofs.Address.Reading
import PairQuote.Proofs.Quote.Run
import PairQuote.Proofs.Rpc.Frame

/-! # Reading a chain over an honest node

A node that answers honestly for a chain sends the head as a quantity and a word as sixty-four
digits, and finds the contract, the slot and the block of a word in the texts of the request.
The client reads back what the node has written, and the node what the client has.

So each call to the link is told what the chain itself tells, and is one request, which the node
understands as this call (`Link.latest_honest`, `Link.read_honest`).  No call stops, and the link
is a chain that quotes can be made over (`honestSource`).  By the answers, which fix a quote, it
follows that these are quotes at the chain itself (`quotes_refine`).
-/
namespace PairQuote.Rpc

variable {α : Type} (dialect : Dialect) (chainId : UInt64)

/-! ## Requests -/

/-- The call that a request is understood as. -/
def Request.call? (r : Request) : Option Call :=
  match r.method, r.params with
  | .blockNumber, none => some .latest
  | .storageAt, some params =>
    (readTarget? params).map fun (contract, slot, block) => .read contract slot block
  | _, _ => none

/-- **The parameters of a request name the slot that is asked for.** -/
theorem readTarget?_storageParams (contract : Address) (slot block : UInt64) :
    readTarget? (storageParams contract slot block) = some (contract, slot, block) := by
  unfold readTarget? storageParams
  dsimp only
  rw [Address.ofText?_text, blockOf?_quantity, blockOf?_quantity]
  rfl

theorem Request.call?_read (id : UInt64) (contract : Address) (slot block : UInt64) :
    (Request.mk id .storageAt (some (storageParams contract slot block))).call? =
      some (.read contract slot block) := by
  unfold call?
  dsimp only
  rw [readTarget?_storageParams]
  rfl

/-! ## Calls -/

/-- A call is told the value whose text a node has framed. -/
theorem Client.outcome_framed (c : Client) (method : Method)
    {decode : String → Ending (Option α)} {text : String} {a : α}
    (h : decode text = .returned (some a)) (id : UInt64) :
    c.outcome dialect method (Link.ofString decode)
      (.answered (frame id.toNat "result" (.str text)).text) = .returned (.ok a) := by
  have hvalue : Link.ofString decode (.str text) = .returned (some a) := h
  unfold outcome
  dsimp only
  rw [Reply.ofBody?_frame_str id.toNat_lt]
  dsimp only
  rw [hvalue]
  rfl

section Send
variable {request : Request} {contract : Address} {slot block : UInt64}

/-- The node answers the question for the head. -/
theorem honest_send_latest (hmethod : request.method = .blockNumber) (chain : FixedChain) :
    (honest dialect chainId).send request chain =
      (.answered (frame request.id.toNat "result" (.str (quantity chain.head.toNat))).text,
        chain) := by
  unfold honest
  dsimp only
  rw [hmethod]

/-- The node answers the question for a word. -/
theorem honest_send_read (hmethod : request.method = .storageAt)
    (hparams : request.params = some (storageParams contract slot block)) (chain : FixedChain) :
    (honest dialect chainId).send request chain =
      (.answered (frame request.id.toNat "result"
        (.str (chain.word contract slot block).text)).text, chain) := by
  unfold honest
  dsimp only
  rw [hmethod, hparams, Option.bind_some, readTarget?_storageParams]

end Send

namespace Link

/-- The link after a request that was answered by a node which it did not change. -/
def answered {τ : Type} (l : Link τ) (request : Request) : Link τ :=
  ⟨l.client.issue.2, l.node, l.seen ++ [request]⟩

theorem call_answered {τ : Type} {transport : Transport τ} {l : Link τ} {method : Method}
    {params : Option (List String)} {body : String}
    (h : transport.send (l.request method params) l.node = (.answered body, l.node))
    (decode : Json → Ending (Option α)) : l.call transport method params decode =
      (l.client.issue.2.outcome transport.dialect method decode (.answered body),
        l.answered (l.request method params)) := by
  have hdelivery : l.delivery transport method params = .answered body := congrArg Prod.fst h
  have hreached : ∀ cause, l.delivery transport method params ≠ .unreachable cause := by
    rw [hdelivery]
    exact fun _ => nofun
  have hnode : (l.call transport method params decode).2.node = l.node := congrArg Prod.snd h
  have hlink : (l.call transport method params decode).2 =
      l.answered (l.request method params) := by
    show Link.mk (l.call transport method params decode).2.client
      (l.call transport method params decode).2.node
      (l.call transport method params decode).2.seen = _
    rw [hnode, call_seen_of_reached hreached]
    rfl
  refine Prod.ext ?_ hlink
  rw [call_eq, hdelivery]

section Steady
variable {τ : Type} {transport : Transport τ} {l l' : Link τ} (h : IsSteady transport)

/-- A chain that is read over a link tells what the call has returned. -/
theorem source_latest_of_eq {result : Except String UInt64}
    (hcall : l.latest transport = (.returned result, l')) :
    (source transport h).latest l = (result, l') := by
  have hlink : (l.latest transport).2 = l' := congrArg Prod.snd hcall
  have hresult := Ending.result_of_eq (congrArg Prod.fst hcall) (h.latest l)
  exact Prod.ext hresult hlink

theorem source_read_of_eq {contract : Address} {slot block : UInt64}
    {result : Except String Word}
    (hcall : l.read transport contract slot block = (.returned result, l')) :
    (source transport h).read contract slot block l = (result, l') := by
  have hlink : (l.read transport contract slot block).2 = l' := congrArg Prod.snd hcall
  have hresult := Ending.result_of_eq (congrArg Prod.fst hcall) (h.read contract slot block l)
  exact Prod.ext hresult hlink

end Steady

variable (l : Link FixedChain)

/-- **The head is told as it is.** -/
theorem latest_honest : l.latest (honest dialect chainId) =
    (.returned (.ok l.node.head), l.answered (l.request .blockNumber none)) := by
  have hsend : (honest dialect chainId).send (l.request .blockNumber none) l.node = _ :=
    honest_send_latest dialect chainId rfl l.node
  have htext : Ending.returned (blockOf? (quantity l.node.head.toNat)) =
      .returned (some l.node.head) := congrArg Ending.returned (blockOf?_quantity l.node.head)
  rw [latest, call_answered hsend, Client.outcome_framed _ _ _ htext]

/-- **A word is told as it is.** -/
theorem read_honest (contract : Address) (slot block : UInt64) :
    l.read (honest dialect chainId) contract slot block =
      (.returned (.ok (l.node.word contract slot block)),
        l.answered (l.request .storageAt (some (storageParams contract slot block)))) := by
  have hsend : (honest dialect chainId).send
      (l.request .storageAt (some (storageParams contract slot block))) l.node = _ :=
    honest_send_read dialect chainId rfl rfl l.node
  have htext : wordOf (honest dialect chainId).dialect.front
      (l.node.word contract slot block).text = .returned (some (l.node.word contract slot block)) :=
    wordOf_text _ _
  rw [read, call_answered hsend, Client.outcome_framed _ _ _ htext]

/-- No call to an honest node stops. -/
theorem isSteady_honest : IsSteady (honest dialect chainId) where
  latest l := by
    rw [l.latest_honest dialect chainId]
    exact nofun
  read contract slot block l := by
    rw [l.read_honest dialect chainId]
    exact nofun

end Link

/-- The chain as a client reads it from an honest node. -/
def honestSource : ChainSource (Link FixedChain) :=
  Link.source (honest dialect chainId) (Link.isSteady_honest dialect chainId)

section Source
variable (l : Link FixedChain)

theorem honestSource_latest : (honestSource dialect chainId).latest l =
    (.ok l.node.head, l.answered (l.request .blockNumber none)) :=
  Link.source_latest_of_eq _ (l.latest_honest dialect chainId)

theorem honestSource_read (contract : Address) (slot block : UInt64) :
    (honestSource dialect chainId).read contract slot block l =
      (.ok (l.node.word contract slot block),
        l.answered (l.request .storageAt (some (storageParams contract slot block)))) :=
  Link.source_read_of_eq _ (l.read_honest dialect chainId contract slot block)

end Source

/-! ## Rows of calls -/

/-- What the link is like after a row of calls: the chain is the same, and the node was sent one
request for each call, which names what the call asks for. -/
structure Answered (l l' : Link FixedChain) (calls : List Call) : Prop where
  node : l'.node = l.node
  asked : ∃ requests : List Request, l'.seen = l.seen ++ requests ∧
    requests.map Request.call? = calls.map some

namespace Answered
variable {l l' l'' : Link FixedChain} {calls : List Call}

theorem nil (l : Link FixedChain) : Answered l l [] :=
  ⟨rfl, [], (List.append_nil _).symm, rfl⟩

/-- A call is one request. -/
theorem after (l : Link FixedChain) (call : Call) :
    Answered l ((honestSource dialect chainId).after l call) [call] := by
  cases call with
  | latest =>
    have hafter : (honestSource dialect chainId).after l .latest =
        ((honestSource dialect chainId).latest l).2 := rfl
    rw [hafter, honestSource_latest]
    exact ⟨rfl, [_], rfl, rfl⟩
  | read contract slot block =>
    have hafter : (honestSource dialect chainId).after l (.read contract slot block) =
        ((honestSource dialect chainId).read contract slot block l).2 := rfl
    rw [hafter, honestSource_read]
    refine ⟨rfl, [_], rfl, ?_⟩
    exact congrArg (fun call => [call]) (Request.call?_read _ contract slot block)

theorem trans (h : Answered l l' calls) {more : List Call} (h' : Answered l' l'' more) :
    Answered l l'' (calls ++ more) := by
  obtain ⟨hnode, requests, hseen, hcalls⟩ := h
  obtain ⟨hnode', requests', hseen', hcalls'⟩ := h'
  refine ⟨hnode'.trans hnode, requests ++ requests', ?_, ?_⟩
  · rw [hseen', hseen, List.append_assoc]
  · rw [List.map_append, List.map_append, hcalls, hcalls']

theorem replay (l : Link FixedChain) (calls : List Call) :
    Answered l ((honestSource dialect chainId).replay calls l) calls := by
  induction calls generalizing l with
  | nil => exact nil l
  | cons call calls ih =>
    have hrest := ih ((honestSource dialect chainId).after l call)
    exact (after dialect chainId l call).trans hrest

end Answered

/-- A fixed chain is not changed by calls. -/
theorem FixedChain.replay_source (calls : List Call) (chain : FixedChain) :
    FixedChain.source.replay calls chain = chain := by
  induction calls with
  | nil => rfl
  | cons call calls ih =>
    have hafter : FixedChain.source.after chain call = chain := by
      cases call <;> rfl
    rw [ChainSource.replay, List.foldl_cons, hafter]
    exact ih

/-- A word is read after any calls as it is at the chain. -/
theorem Link.read_replay (l : Link FixedChain) (calls : List Call) (contract : Address)
    (slot block : UInt64) :
    ((honestSource dialect chainId).read contract slot block
        ((honestSource dialect chainId).replay calls l)).1 =
      (FixedChain.source.read contract slot block (FixedChain.source.replay calls l.node)).1 := by
  have hnode : ((honestSource dialect chainId).replay calls l).node = l.node :=
    (Answered.replay dialect chainId l calls).node
  rw [honestSource_read, hnode, FixedChain.replay_source]
  rfl

/-- **Over the link a quote gets the answers of the chain.** -/
theorem Link.answers_honest (l : Link FixedChain) (pair : Address) :
    (honestSource dialect chainId).answers pair l = FixedChain.source.answers pair l.node := by
  have hhead : ((honestSource dialect chainId).latest l).1 = .ok l.node.head :=
    congrArg Prod.fst (honestSource_latest dialect chainId l)
  unfold ChainSource.answers
  dsimp only
  rw [hhead]
  simp only [Link.read_replay]
  rfl

/-! ## Quotes -/

/-- What is done over a link comes to what is done at the chain itself. -/
structure Refines (l : Link FixedChain) (linked : Except Refusal Nat × Desk (Link FixedChain))
    (direct : Except Refusal Nat × Desk FixedChain) : Prop where
  result : linked.1 = direct.1
  calls : linked.2.observed.calls = direct.2.observed.calls
  /-- One request is sent for each call. -/
  answered : Answered l linked.2.observed.chain direct.2.observed.calls
  chain : direct.2.observed.chain = l.node
  scratch : linked.2.scratch = direct.2.scratch

theorem quote_refines (l : Link FixedChain) (scratch : ScratchPool) (request : QuoteRequest) :
    Refines l ((quote (honestSource dialect chainId) request).run ⟨⟨l, []⟩, scratch⟩)
      ((quote FixedChain.source request).run ⟨⟨l.node, []⟩, scratch⟩) := by
  rw [quote_run, quote_run]
  dsimp only
  rw [l.answers_honest dialect chainId]
  constructor
  · rfl
  · rfl
  · exact Answered.replay dialect chainId l _
  · exact FixedChain.replay_source _ l.node
  · rfl

/-- **A client over an honest node refines the chain.**  For every chain and whatever the client
has been through, with any number of providers, quotes over the link are told what quotes at the
chain are told, also when they are given as texts; and the node is sent, in their order, one
request for each call that the quote makes at the chain. -/
theorem quotes_refine (l : Link FixedChain) (scratch : ScratchPool) :
    (∀ request : QuoteRequest,
      Refines l ((quote (honestSource dialect chainId) request).run ⟨⟨l, []⟩, scratch⟩)
        ((quote FixedChain.source request).run ⟨⟨l.node, []⟩, scratch⟩)) ∧
    ∀ (pair src dst : String) (amountIn : Nat),
      Refines l
        ((estimate (honestSource dialect chainId) pair src dst amountIn).run ⟨⟨l, []⟩, scratch⟩)
        ((estimate FixedChain.source pair src dst amountIn).run ⟨⟨l.node, []⟩, scratch⟩) := by
  refine ⟨quote_refines dialect chainId l scratch, fun pair src dst amountIn => ?_⟩
  cases hcheck : QuoteRequest.check pair src dst amountIn with
  | ok request =>
    rw [estimate_run_ok hcheck, estimate_run_ok hcheck]
    exact quote_refines dialect chainId l scratch request
  | error e =>
    rw [estimate_run_error hcheck, estimate_run_error hcheck]
    exact ⟨rfl, rfl, Answered.nil l, rfl, rfl⟩

end PairQuote.Rpc
