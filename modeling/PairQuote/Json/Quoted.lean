import PairQuote.Text.Digits

/-! # Quoted JSON text

A JSON string stands between quotation marks.  Inside, the quotation mark, the backslash
and every character below U+0020 are **escaped** — five of the latter by a letter, the
others by four digits — and all else stands for itself, also the slash and U+007F.
-/
namespace PairQuote.Json

/-- A character inside quotation marks. -/
def escapeChar (c : Char) : List Char :=
  if c = '"' then ['\\', '"']
  else if c = '\\' then ['\\', '\\']
  else if c = Char.ofNat 8 then ['\\', 'b']
  else if c = Char.ofNat 12 then ['\\', 'f']
  else if c = '\n' then ['\\', 'n']
  else if c = '\r' then ['\\', 'r']
  else if c = '\t' then ['\\', 't']
  else if c.toNat < 0x20 then '\\' :: 'u' :: Text.fixedDigits 16 4 c.toNat
  else [c]

/-- The characters of a text inside quotation marks. -/
def escape (cs : List Char) : List Char := cs.flatMap escapeChar

/-- A text as a JSON string. -/
def quoted (text : String) : String :=
  String.ofList ('"' :: escape text.toList ++ ['"'])

end PairQuote.Json
