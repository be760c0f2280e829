import PairQuote.Proofs.Rpc.Frame

/-! # Steps of a client

What a client goes through is a row of **steps**: it is asked for the chain, for the head, for
a word or for its health, or a provider is taken without asking anything.  A step tells an
`Outcome`, or stops and tells none, and leaves the link to the node as the next step finds it.

A step that asks (`Step.question?`) sends one request and uses up one reply; all steps, these and
the others, move the turn on by one, and a step that asks nothing does no more than that.
-/
namespace PairQuote.Rpc

/-! ## Steps and what they tell -/

/-- What can be done with a client; opening it may ask for the chain. -/
inductive Step where
  | chain
  | latest
  | read (contract : Address) (slot block : UInt64)
  | health
  | provider
  deriving DecidableEq, Repr

/-- The method and the parameters that a step asks the node with, if it does. -/
def Step.question? : Step → Option (Method × Option (List String))
  | chain => some (.chainId, none)
  | latest => some (.blockNumber, none)
  | read contract slot block => some (.storageAt, some (storageParams contract slot block))
  | health => some (.blockNumber, none)
  | provider => none

/-- Whether a step asks the node. -/
def Step.asks (step : Step) : Bool := step.question?.isSome

/-- What a step tells.  A call that fails is refused as a failure of the node. -/
inductive Outcome where
  | chain (result : Except Refusal Nat)
  | block (result : Except Refusal UInt64)
  | word (result : Except Refusal Word)
  | health (isHealthy : Bool)
  | provider (index : Nat)

/-- The refusal in a result, if there is one. -/
def refusalIn {α : Type} : Except Refusal α → Option Refusal
  | .error e => some e
  | .ok _ => none

/-- The refusal that a step tells, if it does. -/
def Outcome.refusal? : Outcome → Option Refusal
  | chain result => refusalIn result
  | block result => refusalIn result
  | word result => refusalIn result
  | health _ => none
  | provider _ => none

variable {τ : Type} (transport : Transport τ)

namespace Link

/-- Takes a step. -/
def take (l : Link τ) : Step → Ending Outcome × Link τ
  | .chain =>
    let (result, l) := l.chain transport
    ((blamed result).map .chain, l)
  | .latest =>
    let (result, l) := l.latest transport
    ((blamed result).map .block, l)
  | .read contract slot block =>
    let (result, l) := l.read transport contract slot block
    ((blamed result).map .word, l)
  | .health =>
    let (isHealthy, l) := l.isHealthy transport
    (isHealthy.map .health, l)
  | .provider =>
    let (index, l) := l.provider
    (.returned (.provider index), l)

/-- The link after several steps. -/
def after (l : Link τ) (steps : List Step) : Link τ :=
  steps.foldl (fun l step => (l.take transport step).2) l

/-- What several steps tell. -/
def outcomes (l : Link τ) : List Step → List (Ending Outcome)
  | [] => []
  | step :: steps => (l.take transport step).1 :: outcomes (l.take transport step).2 steps

end Link

/-! ## The link after a step -/

namespace Link
variable {transport} (l : Link τ)

/-- The request that a step sends, if it does. -/
def sent (step : Step) : List Request :=
  step.question?.toList.map fun (method, params) => l.request method params

theorem length_sent (step : Step) : (l.sent step).length = if step.asks then 1 else 0 := by
  cases step <;> rfl

theorem take_client (step : Step) : (l.take transport step).2.client =
    if step.asks then l.client.issue.2 else l.client.advance := by
  cases step <;> rfl

theorem take_timeoutMs (step : Step) :
    (l.take transport step).2.client.timeoutMs = l.client.timeoutMs := by
  cases step <;> rfl

/-- A step leaves what its call leaves, or else it takes a provider. -/
theorem take_link_cases (transport : Transport τ) (l : Link τ) (step : Step) :
    (step = .provider ∧ (l.take transport step).2 = { l with client := l.client.advance }) ∨
    ∃ (method : Method) (params : Option (List String)) (α : Type)
      (decode : Json → Ending (Option α)), step.question? = some (method, params) ∧
        (l.take transport step).2 = (l.call transport method params decode).2 := by
  cases step with
  | chain => exact .inr ⟨_, _, Nat, ofString fun text => .returned (chainIdOf? text), rfl, rfl⟩
  | latest => exact .inr ⟨_, _, UInt64, ofString fun text => .returned (blockOf? text), rfl, rfl⟩
  | read contract slot block =>
    exact .inr ⟨_, _, Word, ofString (wordOf transport.dialect.front), rfl, rfl⟩
  | health => exact .inr ⟨_, _, UInt64, ofString fun text => .returned (blockOf? text), rfl, rfl⟩
  | provider => exact .inl ⟨rfl, rfl⟩

/-- Every step moves the turn on by one. -/
theorem take_turns (step : Step) :
    (l.take transport step).2.client.turns = l.client.turns + 1 := by
  cases step <;> rfl

theorem take_connections (step : Step) :
    (l.take transport step).2.client.connections = l.client.connections := by
  rw [take_client]
  split
  · exact Array.size_set l.client.current.isLt
  · rfl

@[simp] theorem after_nil : l.after transport [] = l := rfl

theorem after_cons (step : Step) (steps : List Step) :
    l.after transport (step :: steps) = (l.take transport step).2.after transport steps := rfl

theorem after_append (first second : List Step) : l.after transport (first ++ second) =
    (l.after transport first).after transport second :=
  List.foldl_append

theorem after_concat (steps : List Step) (step : Step) : l.after transport (steps ++ [step]) =
    ((l.after transport steps).take transport step).2 := by
  rw [after_append, after_cons, after_nil]

theorem after_timeoutMs (steps : List Step) :
    (l.after transport steps).client.timeoutMs = l.client.timeoutMs := by
  induction steps generalizing l with
  | nil => rfl
  | cons step steps ih => rw [after_cons, ih, take_timeoutMs]

theorem after_connections (steps : List Step) :
    (l.after transport steps).client.connections = l.client.connections := by
  induction steps generalizing l with
  | nil => rfl
  | cons step steps ih => rw [after_cons, ih, take_connections]

theorem after_turns (steps : List Step) : (l.after transport steps).client.turns =
    l.client.turns + UInt64.ofNat steps.length := by
  induction steps generalizing l with
  | nil => simp
  | cons step steps ih =>
    rw [after_cons, ih, take_turns, List.length_cons, Nat.add_comm, UInt64.ofNat_add]
    exact UInt64.add_assoc ..

/-- What a step among others tells is what it tells after those before it. -/
theorem getElem?_outcomes (steps : List Step) (i : Nat) : (l.outcomes transport steps)[i]? =
    steps[i]?.map fun step => ((l.after transport (steps.take i)).take transport step).1 := by
  induction steps generalizing l i with
  | nil => rfl
  | cons step steps ih =>
    cases i with
    | zero => rfl
    | succ i =>
      rw [outcomes, List.getElem?_cons_succ, List.getElem?_cons_succ, ih]
      rfl

end Link

/-! ## Nodes with given replies -/

/-- What is given for a reply when no more are ready. -/
def ScriptedReply.nothing : ScriptedReply := .raw ""

variable {dialect : Dialect}

theorem scripted_send (request : Request) (replies : List ScriptedReply) :
    (scripted dialect).send request replies =
      ((replies.head?.getD .nothing).delivery request, replies.tail) := by
  cases replies <;> rfl

namespace Link
variable {α : Type} (l : Link (List ScriptedReply)) (method : Method)
  (params : Option (List String)) (decode : Json → Ending (Option α))

theorem delivery_scripted : l.delivery (scripted dialect) method params =
    (l.node.head?.getD .nothing).delivery (l.request method params) := by
  rw [delivery, scripted_send]

/-- A scripted node is reached by every request, also if it does not answer. -/
theorem delivery_scripted_ne (cause : String) :
    l.delivery (scripted dialect) method params ≠ .unreachable cause := by
  rw [delivery_scripted]
  cases l.node.head?.getD .nothing <;> exact nofun

/-- The request of a call reaches the node. -/
theorem call_seen : (l.call (scripted dialect) method params decode).2.seen =
    l.seen ++ [l.request method params] :=
  call_seen_of_reached (l.delivery_scripted_ne method params) decode

/-- A call uses up one reply. -/
theorem call_node : (l.call (scripted dialect) method params decode).2.node = l.node.drop 1 := by
  have hnode : (l.call (scripted dialect) method params decode).2.node =
      ((scripted dialect).send (l.request method params) l.node).2 := rfl
  rw [hnode, scripted_send, List.drop_one]

/-- A step that asks sends one request, which reaches the node, and any other sends none. -/
theorem take_seen (step : Step) :
    (l.take (scripted dialect) step).2.seen = l.seen ++ l.sent step := by
  unfold sent
  rcases l.take_link_cases (scripted dialect) step with
    ⟨rfl, hlink⟩ | ⟨method, params, α, decode, hquestion, hlink⟩
  · rw [hlink]
    exact (List.append_nil _).symm
  · rw [hlink, call_seen, hquestion]
    rfl

/-- A step that asks uses up one reply, and any other none. -/
theorem take_node (step : Step) :
    (l.take (scripted dialect) step).2.node = l.node.drop (l.sent step).length := by
  unfold sent
  rcases l.take_link_cases (scripted dialect) step with
    ⟨rfl, hlink⟩ | ⟨method, params, α, decode, hquestion, hlink⟩
  · rw [hlink]
    rfl
  · rw [hlink, call_node, hquestion]
    rfl

end Link

end PairQuote.Rpc
