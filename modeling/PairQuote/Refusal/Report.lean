import PairQuote.Refusal
import PairQuote.Json.Quoted

/-! # The report of a refusal

What a caller is told of a refusal: the code and message of its kind and, where they are
given, the **details**.  The body is one compact JSON document with these fields in this
order; details that are not given have no field.
-/
namespace PairQuote

/-- The report of a refusal. -/
structure RefusalReport where
  code : String
  message : String
  details : Option String := none
  deriving DecidableEq, Repr

namespace RefusalReport

/-- The report of a refusal, with its display text as details or without details. -/
def ofRefusal (e : Refusal) (withDetails : Bool) : RefusalReport :=
  ⟨e.code, e.message, if withDetails then some e.display else none⟩

/-- The report for a caller whose budget is spent. -/
def rateLimited : RefusalReport := ⟨"RATE_LIMIT_EXCEEDED", "Rate limit exceeded", none⟩

/-- A field of a JSON object. -/
def field (name value : String) : String := Json.quoted name ++ ":" ++ Json.quoted value

/-- The fields that are present, in their order. -/
def fields (b : RefusalReport) : List String :=
  [field "code" b.code, field "message" b.message] ++
    (b.details.map (field "details")).toList

/-- The JSON document. -/
def text (b : RefusalReport) : String :=
  "\x7b" ++ Json.quoted "error" ++ ":\x7b" ++ String.intercalate "," b.fields ++ "\x7d\x7d"

end RefusalReport

end PairQuote
