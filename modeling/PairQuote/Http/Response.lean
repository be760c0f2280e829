import PairQuote.Refusal.Report
import PairQuote.Http.Request

/-! # Responses

A response has a status, a content type and a body.  An amount is answered as plain
decimal text, a refusal by its status and its error body, with details only where the
fault is not the service's own.  A request that no route answers gets a page that says so,
or a JSON document if it prefers one.
-/
namespace PairQuote.Http

/-- A response. -/
structure Response where
  status : Nat
  contentType : String
  body : String
  deriving DecidableEq, Repr

namespace Response

/-- The content type of plain text. -/
def plainType : String := "text/plain; charset=utf-8"

/-- The content type of JSON documents. -/
def jsonType : String := "application/json"

/-- The content type of pages. -/
def htmlType : String := "text/html; charset=utf-8"

/-- Success, in plain text. -/
def plain (body : String) : Response := ⟨200, plainType, body⟩

/-- The amount of a quote. -/
def amount (n : Nat) : Response := plain (Text.decimal n)

/-- A refusal; a fault of the service itself is not explained. -/
def refusal (e : Refusal) : Response :=
  ⟨e.status, jsonType, (RefusalReport.ofRefusal e (e.status < 500)).text⟩

/-- The answer to a client whose budget is spent. -/
def tooManyRequests : Response := ⟨429, jsonType, RefusalReport.rateLimited.text⟩

/-- The lines of a text. -/
def lines (rows : List String) : String := "\n".intercalate rows

/-- What is wrong with a request that no route answers. -/
structure Fault where
  status : Nat
  reason : String
  description : String
  deriving DecidableEq, Repr

/-- The target of a request breaks the rules. -/
def Fault.badRequest : Fault :=
  ⟨400, "Bad Request",
    "The request could not be understood by the server due to malformed syntax."⟩

/-- Nothing is served there. -/
def Fault.notFound : Fault :=
  ⟨404, "Not Found", "The requested resource could not be found."⟩

/-- The page that explains a fault. -/
def Fault.page (f : Fault) : String :=
  let code := Text.decimal f.status
  lines
    ["<!DOCTYPE html>",
     "<html lang=\"en\">",
     "<head>",
     "    <meta charset=\"utf-8\">",
     "    <meta name=\"color-scheme\" content=\"light dark\">",
     "    <title>" ++ code ++ " " ++ f.reason ++ "</title>",
     "</head>",
     "<body align=\"center\">",
     "    <div role=\"main\" align=\"center\">",
     "        <h1>" ++ code ++ ": " ++ f.reason ++ "</h1>",
     "        <p>" ++ f.description ++ "</p>",
     "        <hr />",
     "    </div>",
     "    <div role=\"contentinfo\" align=\"center\">",
     "        <small>Rocket</small>",
     "    </div>",
     "</body>",
     "</html>"]

/-- The JSON document that explains a fault. -/
def Fault.document (f : Fault) : String := lines
  ["\x7b",
   "  \"error\": \x7b",
   "    \"code\": " ++ Text.decimal f.status ++ ",",
   "    \"reason\": " ++ Json.quoted f.reason ++ ",",
   "    \"description\": " ++ Json.quoted f.description,
   "  \x7d",
   "\x7d"]

/-- The answer to a request with a fault. -/
def fault (f : Fault) (r : Request) : Response :=
  if (r.header? "Accept").any prefersJson then ⟨f.status, jsonType, f.document⟩
  else ⟨f.status, htmlType, f.page⟩

/-- A response of a route as it is sent: none to `HEAD` has a body. -/
def sentFor (m : Method) (r : Response) : Response :=
  if m = .head then { r with body := "" } else r

end Response

end PairQuote.Http
