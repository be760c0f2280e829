import PairQuote.Json.Reader
import PairQuote.Settings.Node
import PairQuote.Yaml.Document

/-! # Files of settings

A settings file is found by a path, which starts where the program runs.  If there is a
file at its end, the ending of its name must be one of a known format, or it is as if it
were not there.  If there is none, the endings of the known formats are tried after the last
name of the path.

An empty YAML file says nothing; an empty JSON file cannot be read.  A file whose value is
not a table cannot be read either.
-/
namespace PairQuote.Settings

/-- Files by their names, relative to where the program runs. -/
abbrev Files := List (String × String)

/-- The formats of settings files. -/
inductive Format where
  | json
  | yaml
  deriving DecidableEq, Repr

/-- The format of a file by its ending. -/
def Format.ofEnding? (ending : String) : Option Format :=
  if ending = "json" then some .json
  else if ending = "yaml" ∨ ending = "yml" then some .yaml
  else none

/-- What a file of a format says. -/
def Format.read (text : String) : Format → Except FileError (List (String × Value))
  | .json =>
    match Json.ofText? text with
    | some (.obj members) => .ok (Value.lastOfEach (Value.ofMembers members))
    | _ => .error .unreadable
  | .yaml =>
    match Yaml.document? text with
    | none => .error .unreadable
    | some none => .ok []
    | some (some root) =>
      match Value.ofNode root with
      | .ok (.table es) => .ok es
      | .ok _ => .error .unreadable
      | .error e => .error e

namespace Files

/-- Whether a place, its steps backwards, is a directory: where the program runs, or above
some file. -/
def isDirectory (files : Files) (place : List String) : Bool :=
  place.isEmpty || files.any fun file =>
    ("/".intercalate place.reverse ++ "/").toList.isPrefixOf file.1.toList

/-- The place that steps lead to, backwards.  Every step is taken from a directory, and none
leads out of where the program runs. -/
def walk (files : Files) : List (List Char) → List String → Option (List String)
  | [], place => some place
  | step :: steps, place =>
    if !files.isDirectory place then none
    else if step = [] ∨ step = ['.'] then walk files steps place
    else if step = ['.', '.'] then
      match place with
      | [] => none
      | _ :: above => walk files steps above
    else walk files steps (String.ofList step :: place)

/-- The text of the file that the steps of a path lead to. -/
def textAt? (files : Files) (steps : List (List Char)) : Option String :=
  (files.walk steps []).bind fun place => files.lookup ("/".intercalate place.reverse)

/-- What follows the last point of a step, unless the point is first. -/
def ending (step : List Char) : String :=
  let tail := step.reverse.takeWhile (· ≠ '.')
  if tail.length + 1 < step.length then String.ofList tail.reverse else ""

/-- The steps with an ending added to the last one that leads anywhere; nothing if it leads
back. -/
def withEnding? (e : String) (steps : List (List Char)) : Option (List (List Char)) :=
  match steps.reverse.dropWhile fun step => step = [] ∨ step = ['.'] with
  | [] => none
  | last :: before =>
    if last = ['.', '.'] then none else some (before.reverse ++ [last ++ '.' :: e.toList])

/-- The settings file of a path: its format and its text. -/
def find? (files : Files) (path : String) : Option (Format × String) :=
  let steps := Text.pieces '/' path.toList
  if path.toList.head? = some '/' then none
  else
    match files.textAt? steps with
    | some text => (Format.ofEnding? (ending (steps.getLastD []))).map fun format => (format, text)
    | none =>
      [("json", Format.json), ("yaml", Format.yaml), ("yml", Format.yaml)].findSome?
        fun (e, format) =>
          ((withEnding? e steps).bind files.textAt?).map fun text => (format, text)

end Files

end PairQuote.Settings
