import PairQuote.Binary64.Shortest
import PairQuote.Json.Quoted
import PairQuote.Text.Integer

/-! # JSON values

A JSON document holds one value.  Numbers without fraction and exponent that fit 64 bits,
signed or unsigned, are integers, all others are binary floating-point numbers.  Objects
keep their members in order, also several of one name.
-/
namespace PairQuote

/-- A JSON value. -/
inductive Json where
  | null
  | bool (b : Bool)
  | int (n : Int)
  | real (x : Binary64)
  | str (s : String)
  | arr (items : List Json)
  | obj (members : List (String × Json))
  deriving Inhabited

namespace Json

mutual

/-- The compact document of a value. -/
def text : Json → String
  | null => "null"
  | bool true => "true"
  | bool false => "false"
  | int n => Text.integer n
  | real x => x.text
  | str s => quoted s
  | arr items => "[" ++ itemsText items ++ "]"
  | obj members => "\x7b" ++ membersText members ++ "\x7d"

/-- The items of an array, with commas between them. -/
def itemsText : List Json → String
  | [] => ""
  | [item] => text item
  | item :: rest => text item ++ "," ++ itemsText rest

/-- The members of an object, with commas between them. -/
def membersText : List (String × Json) → String
  | [] => ""
  | [(name, value)] => quoted name ++ ":" ++ text value
  | (name, value) :: rest => quoted name ++ ":" ++ text value ++ "," ++ membersText rest

end

end Json

end PairQuote
