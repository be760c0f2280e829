import PairQuote.Rpc.Client

/-! # Nodes with given replies

Two nodes to set beside a client.  A **scripted** node has its replies ready and gives them
out one by one, whatever it is asked; after the last one it answers with nothing.  An
**honest** node answers from a chain: the head as a quantity and words as sixty-four
digits.
-/
namespace PairQuote.Rpc

/-- A reply that a scripted node has ready. -/
inductive ScriptedReply where
  | result (value : Json)
  | failure (error : Json)
  | raw (body : String)
  | hang

/-- The object that frames a result or an error. -/
def frame (id : Nat) (name : String) (value : Json) : Json :=
  .obj [("jsonrpc", .str "2.0"), ("id", .int id), (name, value)]

/-- What a scripted reply makes of a request. -/
def ScriptedReply.delivery (request : Request) : ScriptedReply → Delivery
  | result value => .answered (frame request.id.toNat "result" value).text
  | failure error => .answered (frame request.id.toNat "error" error).text
  | raw body => .answered body
  | hang => .silence

/-- The node that gives out replies in turn. -/
def scripted (dialect : Dialect) : Transport (List ScriptedReply) where
  send request replies :=
    match replies with
    | [] => (.answered "", [])
    | reply :: rest => (reply.delivery request, rest)
  dialect := dialect

/-- A chain whose head and words are fixed. -/
structure FixedChain where
  head : UInt64
  word : Address → UInt64 → UInt64 → Word

/-- Reads a fixed chain; nothing fails. -/
def FixedChain.source : ChainSource FixedChain where
  latest c := (.ok c.head, c)
  read contract slot block c := (.ok (c.word contract slot block), c)

/-- The contract, slot and block that the parameters of a request name. -/
def readTarget? : List String → Option (Address × UInt64 × UInt64)
  | [contract, slot, block] => do
    let contract ← Address.ofText? contract
    let slot ← blockOf? slot
    let block ← blockOf? block
    return (contract, slot, block)
  | _ => none

/-- The node that answers for a fixed chain of the given number. -/
def honest (dialect : Dialect) (chainId : UInt64) : Transport FixedChain where
  send request chain :=
    let answer (value : String) : Delivery × FixedChain :=
      (.answered (frame request.id.toNat "result" (.str value)).text, chain)
    match request.method, request.params.bind readTarget? with
    | .chainId, _ => answer (quantity chainId.toNat)
    | .blockNumber, _ => answer (quantity chain.head.toNat)
    | .storageAt, some (contract, slot, block) => answer (chain.word contract slot block).text
    | .storageAt, none => (.answered "", chain)
  dialect := dialect

end PairQuote.Rpc
