import PairQuote.Net.IpAddress
import PairQuote.Http.Query
import PairQuote.Http.Accept

/-! # Requests

A request has a method, a target, headers in their order and perhaps the address it came
from.  Header names are compared without regard to case and only the first header of a
name counts.

The **client** of a request, for the sake of its budget, is what the forwarding header
says before its first comma, even if that is nothing; without such a header it is the
address in the real-address header, if there is one that can be read, and otherwise the
address the request came from.

Two **routes** are served, under `GET` and, as the same without a body, under `HEAD`.
-/
namespace PairQuote.Http

/-- The methods that make a difference. -/
inductive Method where
  | get
  | head
  | other
  deriving DecidableEq, Repr

/-- A request. -/
structure Request where
  method : Method := .get
  target : String
  headers : List (String × String) := []
  remote : Option IpAddress := none

/-- What can be asked for. -/
inductive Route where
  | estimate
  | health
  deriving DecidableEq, Repr

namespace Request

/-- The value of the first header of a name. -/
def header? (r : Request) (name : String) : Option String :=
  (r.headers.find? fun h => Text.sameLetters h.1 name).map (·.2)

/-- The address a request seems to come from. -/
def address? (r : Request) : Option IpAddress :=
  ((r.header? "X-Real-IP").bind IpAddress.ofText?).or r.remote

/-- The key under which a request is counted. -/
def clientKey (r : Request) : String :=
  match r.header? "X-Forwarded-For" with
  | some forwarded => String.ofList (Text.trim (Text.cut ',' forwarded.toList).1)
  | none =>
    match r.address? with
    | some ip => ip.text
    | none => "unknown"

/-- The route of a request, if it has one. -/
def route? (slash : LastSlash) (r : Request) : Option Route :=
  if r.method = .other then none
  else
    match segments slash (Text.cut '?' r.target.toList).1 with
    | ["estimate"] => some .estimate
    | ["health"] => some .health
    | _ => none

/-- The fields of the query. -/
def query (r : Request) : List (String × String) :=
  fields ((Text.cut '?' r.target.toList).2.getD [])

end Request

end PairQuote.Http
