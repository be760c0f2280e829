import PairQuote.Text.Pieces
import PairQuote.Unicode.Alphanumeric

/-! # Variables and files of variables

An **environment** is a row of variables, each set once.  A **file of variables** sets more
of them, line by line, but never one that is set already.  The first line that cannot be
read ends the file without complaint.

A line is a name, an equals sign and a value, with blanks around them and perhaps the word
`export` in front; empty lines and lines that start with `#` do not count.  In a value

* text between single quotes stands for itself;
* elsewhere a backslash takes the meaning off a quote, a blank, a dollar or another
  backslash and makes a line end of `n`;
* a dollar and letters or numbers of any script, or a dollar and a name in braces, stand for
  a variable;
* the first bare blank ends the value, and only a comment may follow it.
-/
namespace PairQuote.Settings

/-- The variables that are set. -/
abbrev Environment := List (String × String)

namespace EnvFile

/-- What a dollar has begun. -/
inductive Substitution where
  | none
  | bare (name : List Char)
  | braced (name : List Char)

/-- How far a value has been read.  `out` is what it stands for so far, backwards. -/
structure State where
  out : List Char := []
  single : Bool := false
  double : Bool := false
  escaped : Bool := false
  ended : Bool := false
  substitution : Substitution := .none

/-- What a name stands for: a set variable, or one of the same file, or nothing. -/
def expand (env file : Environment) (name : List Char) : List Char :=
  let name := String.ofList name
  ((env.lookup name).or (file.lookup name)).getD "" |>.toList

/-- Adds what a name stands for. -/
def State.addVariable (s : State) (env file : Environment) (name : List Char) : State :=
  { s with out := (expand env file name.reverse).reverse ++ s.out, substitution := .none }

/-- Adds one character that stands for itself. -/
def State.addChar (s : State) (c : Char) : State := { s with out := c :: s.out }

/-- Reads one character outside single quotes and names. -/
def State.readPlain (s : State) (c : Char) : State :=
  if c = '$' then { s with substitution := .bare [] }
  else if s.double then
    if c = '"' then { s with double := false }
    else if c = '\\' then { s with escaped := true }
    else s.addChar c
  else if c = '\'' then { s with single := true }
  else if c = '"' then { s with double := true }
  else if c = '\\' then { s with escaped := true }
  else if c = ' ' ∨ c = '\t' then { s with ended := true }
  else s.addChar c

/-- Reads one character after a backslash. -/
def State.readEscaped (s : State) (c : Char) : Option State :=
  let s := { s with escaped := false }
  if c = '\\' ∨ c = '\'' ∨ c = '"' ∨ c = '$' ∨ c = ' ' then some (s.addChar c)
  else if c = 'n' then some (s.addChar '\n')
  else none

/-- Reads one character of a value; nothing if it cannot stand there. -/
def State.read (env file : Environment) (s : State) (c : Char) : Option State :=
  if s.escaped then s.readEscaped c
  else if s.single then
    some (if c = '\'' then { s with single := false } else s.addChar c)
  else
    match s.substitution with
    | .none => some (s.readPlain c)
    | .bare name =>
      if Unicode.isAlphanumeric c then some { s with substitution := .bare (c :: name) }
      else if c = '\x7b' ∧ name = [] then some { s with substitution := .braced [] }
      else
        let s := s.addVariable env file name
        some (if c = '$' then { s with substitution := .bare [] } else s.addChar c)
    | .braced name =>
      if c = '\x7d' then some (s.addVariable env file name)
      else some { s with substitution := .braced (c :: name) }

/-- Reads the characters of a value.  After its end blanks may follow, and a comment. -/
def readValue (env file : Environment) : State → List Char → Option State
  | s, [] => some s
  | s, c :: rest =>
    if s.ended then
      if c = ' ' ∨ c = '\t' then readValue env file s rest
      else if c = '#' then some s
      else none
    else
      match s.read env file c with
      | some s => readValue env file s rest
      | none => none

/-- What a value stands for; nothing if a quote or a brace is left open. -/
def valueOf? (env file : Environment) (row : List Char) : Option String := do
  let s ← readValue env file {} row
  guard (!s.single && !s.double)
  let s ← match s.substitution with
    | .none => some s
    | .bare name => some (s.addVariable env file name)
    | .braced _ => none
  return String.ofList s.out.reverse

/-- Whether a character can stand in a name. -/
def isNameChar (c : Char) : Bool := c.isAlphanum || c == '_' || c == '.'

/-- The name at the start of a row, and the row after it and its blanks. -/
def readName (row : List Char) : Option (List Char × List Char) :=
  let name := row.takeWhile isNameChar
  if name.head?.any (fun c => c.isAlpha || c == '_') then
    some (name, Text.trimLeft (row.drop name.length))
  else none

/-- The name of a line and the row after its equals sign. -/
def readTarget (row : List Char) : Option (List Char × List Char) := do
  let (name, rest) ← readName row
  match rest with
  | '=' :: value => some (name, value)
  | _ =>
    guard (name == "export".toList)
    let (name, rest) ← readName rest
    match rest with
    | '=' :: value => some (name, value)
    | _ => none

/-- What one line says: nothing, or a variable and its value. -/
inductive Line where
  | blank
  | variable (name value : String)
  | bad

/-- Reads one line. -/
def readLine (env file : Environment) (row : List Char) : Line :=
  let row := Text.trim row
  if row.isEmpty ∨ row.head? = some '#' then .blank
  else
    match readTarget row with
    | none => .bad
    | some (name, value) =>
      let value := Text.trimLeft value
      if value.isEmpty ∨ value.head? = some '#' then .variable (String.ofList name) ""
      else
        match valueOf? env file value with
        | some v => .variable (String.ofList name) v
        | none => .bad

/-- Reads lines; `file` is what the file has said so far, the latest first. -/
def readLines (env file : Environment) : List (List Char) → Environment
  | [] => env
  | row :: rest =>
    match readLine env file row with
    | .blank => readLines env file rest
    | .variable name value =>
      let env' := if (env.lookup name).isSome then env else env ++ [(name, value)]
      readLines env' ((name, value) :: file) rest
    | .bad => env

end EnvFile

/-- The environment after a file of variables. -/
def Environment.withFile (env : Environment) (text : String) : Environment :=
  EnvFile.readLines env [] (Text.pieces '\n' text.toList)

end PairQuote.Settings
