import PairQuote.Json.Reader
import PairQuote.Rpc.Quantity

/-! # Requests to a node and its replies

A **request** names a method, has parameters or none, and a number of its own.  A
**reply** is one JSON object that repeats the version and a number — which one is not
compared — and holds either a result or an error with a code, a message and perhaps data of
its own.  Any other member, a member given twice, or a result next to an error makes the body
no reply.

The names of its members and the version are taken from the body as they stand there.  So a body
is no reply either if one of them is written with an escape.
-/
namespace PairQuote.Rpc

open Json (skipBlanks)

/-- What a node is asked. -/
inductive Method where
  | chainId
  | blockNumber
  | storageAt
  deriving DecidableEq, Repr

/-- The name of a method. -/
def Method.name : Method → String
  | chainId => "eth_chainId"
  | blockNumber => "eth_blockNumber"
  | storageAt => "eth_getStorageAt"

/-- A request with its number; without parameters none are sent. -/
structure Request where
  id : UInt64
  method : Method
  params : Option (List String) := none
  deriving DecidableEq, Repr

/-- The parameters that name a slot of a contract at a block. -/
def storageParams (contract : Address) (slot block : UInt64) : List String :=
  [contract.text, quantity slot.toNat, quantity block.toNat]

/-- What the body of a reply says. -/
inductive Reply where
  | result (value : Json)
  | failure (code : Int) (message : String) (data : Option Json)

namespace Reply

/-! ### The members of a body -/

/-- Whether a character stands for itself between quotation marks. -/
def isPlain (c : Char) : Bool := c ≠ '"' && c ≠ '\\' && 0x20 ≤ c.toNat

/-- Reads a text between quotation marks that is written without escapes. -/
def readPlain (row : List Char) : Option (String × List Char) :=
  match skipBlanks row with
  | '"' :: rest =>
    match rest.dropWhile isPlain with
    | '"' :: left => some (String.ofList (rest.takeWhile isPlain), left)
    | _ => none
  | _ => none

/-- Reads the value of a member. -/
def readValueOf (name : String) (row : List Char) : Option (Json × List Char) :=
  if name = "jsonrpc" then (readPlain row).map fun (text, rest) => (.str text, rest)
  else Json.readValue (2 * row.length + 1) (Json.maxDepth - 1) row

/-- Reads the members of an object, of which there is at least one, and its end. -/
def readMembers : (most : Nat) → List Char → Option (List (String × Json) × List Char)
  | 0, _ => none
  | most + 1, row => do
    let (name, rest) ← readPlain row
    let rest ← Json.after? [':'] (skipBlanks rest)
    let (value, rest) ← readValueOf name rest
    match skipBlanks rest with
    | ',' :: rest => do
      let (members, rest) ← readMembers most rest
      some ((name, value) :: members, rest)
    | '\x7d' :: rest => some ([(name, value)], rest)
    | _ => none

/-- The members of the object that a body is.  More than four are not looked for, since a fifth
would be one too many, whatever its name is. -/
def members? (body : String) : Option (List (String × Json)) := do
  let row ← Json.after? ['\x7b'] (skipBlanks body.toList)
  let (members, rest) ← readMembers 4 row
  if (skipBlanks rest).isEmpty then some members else none

/-! ### What they say -/

/-- Whether no name occurs twice. -/
def namesDiffer : List String → Bool
  | [] => true
  | name :: names => !names.contains name && namesDiffer names

/-- A value that is there; the null value stands for none. -/
def present? : Json → Option Json
  | .null => none
  | value => some value

/-- The code, the message and the data of an error object; other members do not matter. -/
def failureOf? : Json → Option Reply
  | .obj members => do
    let known := (members.map (·.1)).filter ["code", "message", "data"].contains
    guard (namesDiffer known)
    match members.lookup "code", members.lookup "message" with
    | some (.int code), some (.str message) =>
      if Text.fitsInt64 code then
        some (failure code message ((members.lookup "data").bind present?))
      else none
    | _, _ => none
  | _ => none

/-- Reads a reply from the members of its object. -/
def ofMembers? (members : List (String × Json)) : Option Reply := do
  let names := members.map (·.1)
  guard (namesDiffer names && names.all ["jsonrpc", "id", "result", "error"].contains)
  match members.lookup "jsonrpc", members.lookup "id" with
  | some (.str "2.0"), some (.int id) =>
    guard (0 ≤ id)
    match members.lookup "result", members.lookup "error" with
    | some value, none => some (result value)
    | none, some e => failureOf? e
    | _, _ => none
  | _, _ => none

/-- Reads the body of a reply. -/
def ofBody? (body : String) : Option Reply := (members? body).bind ofMembers?

end Reply

end PairQuote.Rpc
