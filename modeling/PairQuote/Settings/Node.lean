import PairQuote.Settings.Scalar
import PairQuote.Yaml.Node

/-! # Setting values in YAML

A YAML node says what a setting value can say, with two exceptions: a word for infinity or
the undefined number cannot be read, and a name must be text or an integer.
-/
namespace PairQuote.Settings

/-- Why a file says nothing. -/
inductive FileError where
  /-- It breaks the rules of its format, or is not a table. -/
  | unreadable
  /-- A key is neither text nor an integer. -/
  | nameless
  deriving DecidableEq, Repr

/-- The name that a key is. -/
def nameOf? : Yaml.Node → Option String
  | .text s => some s
  | .int n => some (Text.integer n)
  | _ => none

namespace Value

mutual

/-- The value that a node is. -/
def ofNode : Yaml.Node → Except FileError Value
  | .invalid | .null => .ok .null
  | .bool b => .ok (.bool b)
  | .int n => .ok (.int n)
  | .real s =>
    match real? s.toList with
    | some x => .ok (.real x)
    | none => .error .unreadable
  | .text s => .ok (.text s)
  | .sequence items =>
    match checkNodes items with
    | .ok () => .ok .list
    | .error e => .error e
  | .mapping entries =>
    match ofEntries entries with
    | .ok es => .ok (.table (lastOfEach es))
    | .error e => .error e

/-- Whether all items are values. -/
def checkNodes : List Yaml.Node → Except FileError Unit
  | [] => .ok ()
  | item :: rest =>
    match ofNode item with
    | .ok _ => checkNodes rest
    | .error e => .error e

/-- The entries of a mapping. -/
def ofEntries : List (Yaml.Node × Yaml.Node) → Except FileError (List (String × Value))
  | [] => .ok []
  | (key, node) :: rest =>
    match nameOf? key with
    | none => .error .nameless
    | some name =>
      match ofNode node with
      | .error e => .error e
      | .ok v =>
        match ofEntries rest with
        | .ok es => .ok ((name, v) :: es)
        | .error e => .error e

end

end Value

end PairQuote.Settings
