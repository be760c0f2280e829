import PairQuote.Net.Url
import PairQuote.Chain
import PairQuote.Rpc.Message

/-! # The client of a node

A client talks to one node over several **providers**, which take turns: every use of the
client, whether it sends something or not and whether it succeeds or not, moves the turn
on by one.  Each provider numbers the requests it sends, starting from one.

The uses of a client and the requests of a provider are counted in 64 bits, and the count
starts again from zero after the greatest number.

A request meets a **transport**: it may not get through, it may get no answer in time, or
it gets a body.  One request is sent for each call, and nothing is tried again.  A call
fails with a text that names its method and tells a cause; if the node itself reported an
error, that is its code, its message and its data.  The words for all other causes, and for
data, are not chosen here but come with the transport (`Dialect`).

A call may also stop, at bytes that are not as many as those of a word.  Opening a client either
trusts the expected chain number or asks the node for it, and stops at a number beyond 64 bits.
Whatever a call ends in, the client has counted it, and can be used again.
-/
namespace PairQuote.Rpc

/-- What becomes of a request. -/
inductive Delivery where
  /-- It does not reach the node, for a cause that is told. -/
  | unreachable (cause : String)
  /-- It reaches the node, which does not answer in time. -/
  | silence
  /-- It is answered; the status of the answer does not matter. -/
  | answered (body : String)

/-- How the body of an answer is put into words, and read, as far as this is not fixed. -/
structure Dialect where
  /-- For a body that is no reply, or none that holds what a method asks for. -/
  body : Method → String → String
  /-- For the data of an error. -/
  data : Json → String
  front : FrontMarker

/-- Carries requests to a node, from a state that each of them may change, and has a way to read
what comes back. -/
structure Transport (τ : Type) where
  send : Request → τ → Delivery × τ
  dialect : Dialect

/-- The transport by which nothing arrives, for always the same cause. -/
def Transport.unreachable (cause : String) : Transport Unit where
  send _ _ := (.unreachable cause, ())
  dialect := ⟨fun _ _ => "", fun _ => "", .refused⟩

/-- The providers of a client, by how many requests each has sent, and the uses made of
the client. -/
structure Client where
  chainId : UInt64
  timeoutMs : Nat
  issued : Array UInt64
  issued_pos : 0 < issued.size
  turns : UInt64 := 0

/-- A client, the node it talks to and the requests that reached the node. -/
structure Link (τ : Type) where
  client : Client
  node : τ
  seen : List Request := []

namespace Client

/-- How many providers there are. -/
def connections (c : Client) : Nat := c.issued.size

/-- The provider whose turn it is. -/
def current (c : Client) : Fin c.issued.size :=
  ⟨c.turns.toNat % c.issued.size, Nat.mod_lt _ c.issued_pos⟩

/-- Moves the turn on. -/
def advance (c : Client) : Client := { c with turns := c.turns + 1 }

/-- Numbers a request of the provider whose turn it is, and moves the turn on. -/
def issue (c : Client) : UInt64 × Client :=
  let number := c.issued[c.current] + 1
  (number,
    { c with
      issued := c.issued.set c.current number
      issued_pos := by rw [Array.size_set]; exact c.issued_pos
      turns := c.turns + 1 })

/-- Sets up the providers, at least one, without asking the node. -/
def connect (url : String) (chainId : UInt64) (poolSize timeoutMs : Nat) :
    Except Refusal Client :=
  match Url.check url with
  | .error e => .error (.misconfigured ("Failed to create provider: " ++ e.message))
  | .ok () =>
    .ok { chainId := chainId, timeoutMs := timeoutMs
          issued := Array.replicate (max poolSize 1) 0
          issued_pos := by rw [Array.size_replicate]; exact Nat.le_max_right poolSize 1 }

/-- A span of milliseconds in the greatest unit that it fills, without zeros at the end. -/
def spanText (ms : Nat) : String :=
  if ms = 0 then "0ns"
  else if ms < 1000 then Text.decimal ms ++ "ms"
  else
    let fraction := ((Text.fixedDigits 10 3 (ms % 1000)).reverse.dropWhile (· == '0')).reverse
    Text.decimal (ms / 1000) ++
      (if fraction.isEmpty then "" else "." ++ String.ofList fraction) ++ "s"

/-- The text of a call that failed for a cause. -/
def failureText (method : Method) (cause : String) : String :=
  "Unable to connect to blockchain network (" ++ method.name ++ "): " ++ cause

/-- The text of a call that had no answer in time. -/
def timeoutText (method : Method) (timeoutMs : Nat) : String :=
  "Blockchain network timeout after " ++ spanText timeoutMs ++ " (" ++ method.name ++ ")"

/-- The cause that an error of the node is. -/
def nodeErrorText (dialect : Dialect) (code : Int) (message : String) (data : Option Json) :
    String :=
  "(code: " ++ Text.integer code ++ ", message: " ++ message ++ ", data: " ++
    data.elim "None" (fun value => "Some(" ++ dialect.data value ++ ")") ++ ")"

/-- What a call makes of the fate of its request. -/
def outcome {α : Type} (c : Client) (dialect : Dialect) (method : Method)
    (decode : Json → Ending (Option α)) : Delivery → Ending (Except String α)
  | .unreachable cause => .returned (.error (failureText method cause))
  | .silence => .returned (.error (timeoutText method c.timeoutMs))
  | .answered body =>
    let unread : Except String α := .error (failureText method (dialect.body method body))
    match Reply.ofBody? body with
    | some (.result value) => (decode value).map (Option.elim · unread .ok)
    | some (.failure code message data) =>
      .returned (.error (failureText method (nodeErrorText dialect code message data)))
    | none => .returned unread

end Client

variable {τ : Type} (transport : Transport τ)

namespace Link

/-- Makes a call over the provider whose turn it is. -/
def call {α : Type} (method : Method) (params : Option (List String))
    (decode : Json → Ending (Option α)) (l : Link τ) : Ending (Except String α) × Link τ :=
  let (number, client) := l.client.issue
  let request : Request := ⟨number, method, params⟩
  let (delivery, node) := transport.send request l.node
  let seen := match delivery with
    | .unreachable _ => l.seen
    | _ => l.seen ++ [request]
  (client.outcome transport.dialect method decode delivery, ⟨client, node, seen⟩)

/-- A value that the text of a JSON string stands for. -/
def ofString {α : Type} (decode : String → Ending (Option α)) : Json → Ending (Option α)
  | .str s => decode s
  | _ => .returned none

/-- The number of the latest block. -/
def latest (l : Link τ) : Ending (Except String UInt64) × Link τ :=
  call transport .blockNumber none (ofString fun text => .returned (blockOf? text)) l

/-- The word in a slot of a contract at a block. -/
def read (contract : Address) (slot block : UInt64) (l : Link τ) :
    Ending (Except String Word) × Link τ :=
  call transport .storageAt (some (storageParams contract slot block))
    (ofString (wordOf transport.dialect.front)) l

/-- Whether the node tells the number of its latest block. -/
def isHealthy (l : Link τ) : Ending Bool × Link τ :=
  let (result, l) := latest transport l
  (result.map Except.isOk, l)

/-- Takes the provider whose turn it is without sending anything. -/
def provider (l : Link τ) : Nat × Link τ :=
  (l.client.current, { l with client := l.client.advance })

/-- Over a steady transport no call stops. -/
structure IsSteady : Prop where
  latest : ∀ l : Link τ, (latest transport l).1 ≠ .stopped
  read : ∀ contract slot block (l : Link τ), (read transport contract slot block l).1 ≠ .stopped

/-- The chain as the client reads it, over a steady transport. -/
def source (h : IsSteady transport) : ChainSource (Link τ) where
  latest l := ((latest transport l).1.result (h.latest l), (latest transport l).2)
  read contract slot block l :=
    ((read transport contract slot block l).1.result (h.read contract slot block l),
      (read transport contract slot block l).2)

/-- The link with the requests that reached the node forgotten. -/
def forgetSeen (l : Link τ) : Link τ := { l with seen := [] }

end Link

/-- The refusal of a node on another chain. -/
def chainMismatch (expected got : Nat) : Refusal :=
  .misconfigured ("Chain ID mismatch: expected " ++ Text.decimal expected ++ ", got " ++
    Text.decimal got)

/-- Opens a client without asking the node. -/
def connect (url : String) (chainId : UInt64) (poolSize timeoutMs : Nat) (node : τ) :
    Except Refusal (Link τ) :=
  (Client.connect url chainId poolSize timeoutMs).map fun client => { client, node }

/-- What is made of the number that the node reports for its chain.  It is narrowed to 64 bits,
which stops at a greater one, whatever is expected. -/
def settle (expected : UInt64) : Except String Nat → Ending (Except Refusal Unit)
  | .error text => .returned (.error (.chainUnavailable text))
  | .ok got =>
    if UInt64.size ≤ got then .stopped
    else if got = expected.toNat then .returned (.ok ())
    else .returned (.error (chainMismatch expected.toNat got))

/-- Asks the node for the number of its chain. -/
def Link.chain (l : Link τ) : Ending (Except String Nat) × Link τ :=
  call transport .chainId none (ofString fun text => .returned (chainIdOf? text)) l

/-- Opens a client after asking the node for its chain.  The link is there also when the
node is refused. -/
def openChecked (url : String) (chainId : UInt64) (poolSize timeoutMs : Nat) (node : τ) :
    Ending (Except Refusal Unit) × Option (Link τ) :=
  match connect url chainId poolSize timeoutMs node with
  | .error e => (.returned (.error e), none)
  | .ok l =>
    let (result, l) := l.chain transport
    (result.bind (settle chainId), some l)

end PairQuote.Rpc
