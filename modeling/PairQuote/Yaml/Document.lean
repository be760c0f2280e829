import PairQuote.Yaml.Lexer
import PairQuote.Yaml.Node

/-! # The document of a YAML text

A text holds at most one document: directives, the marker of its start, both of which may
be missing, one node, and the marker of its end, if there is one.

Collections come in a **block** form by indentation and a **flow** form in brackets.  In a
mapping a sequence need not be indented: then its items stand under the key.  A missing node
is null; one with nothing but an anchor or a tag is an empty scalar.
-/
namespace PairQuote.Yaml

/-- What is still to be read of a document, and the nodes that have been named in it. -/
structure Remainder where
  tokens : List Token
  /-- The number of the node that each name was given to last. -/
  names : List (String × Nat) := []
  /-- The named nodes that have been read to their end, by their numbers. -/
  nodes : List (Nat × Node) := []

namespace Remainder

/-- The next token. -/
def next (r : Remainder) : Token := r.tokens.headD .streamEnd

/-- What remains after the next token. -/
def skip (r : Remainder) : Remainder := { r with tokens := r.tokens.drop 1 }

/-- What stands in front of a node: the number it gets by its anchor, and its tag. -/
structure Properties where
  number : Option Nat := none
  tag : Option (String × String) := none

/-- Gives a name to the node that follows. -/
def name (n : String) (r : Remainder) : Nat × Remainder :=
  (r.names.length, { r.skip with names := (n, r.names.length) :: r.names })

/-- Notes that a node has been read to its end. -/
def finish (p : Properties) (node : Node) (r : Remainder) : Remainder :=
  match p.number with
  | some n => { r with nodes := (n, node) :: r.nodes }
  | none => r

/-- The type that a tag stands for, by the directives on handles. -/
def resolve? (handles : List (String × String)) (handle : String) : Option String :=
  match handles.lookup handle with
  | some replacement => some replacement
  | none =>
    if handle = "!!" then some Node.corePrefix
    else if isClosedHandle handle then none
    else some handle

/-- Reads what stands in front of a node: an anchor and a tag in either order. -/
def properties? (handles : List (String × String)) (r : Remainder) :
    Option (Properties × Remainder) :=
  match r.next with
  | .anchor n _ =>
    let (number, r) := r.name n
    match r.next with
    | .tag handle kind _ =>
      (resolve? handles handle).map fun handle => (⟨some number, some (handle, kind)⟩, r.skip)
    | _ => some (⟨some number, none⟩, r)
  | .tag handle kind _ =>
    (resolve? handles handle).map fun handle =>
      match r.skip.next with
      | .anchor n _ =>
        let (number, r) := r.skip.name n
        (⟨some number, some (handle, kind)⟩, r)
      | _ => (⟨none, some (handle, kind)⟩, r.skip)
  | _ => some ({}, r)

mutual

/-- Reads a node.  Block collections are read only where they can stand. -/
def node? (handles : List (String × String)) :
    (fuel : Nat) → (block underKey : Bool) → Remainder → Option (Node × Remainder)
  | 0, _, _, _ => none
  | fuel + 1, block, underKey, r =>
    match r.next with
    | .alias n =>
      (r.names.lookup n).map fun number => ((r.nodes.lookup number).getD .invalid, r.skip)
    | _ =>
      match r.properties? handles with
      | some (p, r) =>
        (content? handles fuel block underKey p r).map fun (node, r) => (node, r.finish p node)
      | none => none

/-- Reads what stands behind the anchor and the tag of a node. -/
def content? (handles : List (String × String)) :
    (fuel : Nat) → (block underKey : Bool) → Properties → Remainder → Option (Node × Remainder)
  | 0, _, _, _, _ => none
  | fuel + 1, block, underKey, p, r =>
    let empty :=
      if p.number.isSome || p.tag.isSome then some (Node.ofScalar true p.tag "", r) else none
    match r.next with
    | .scalar plain s => some (Node.ofScalar plain p.tag s, r.skip)
    | .flowSequenceStart =>
      (flowItems? handles fuel true r.skip).map fun (items, r) => (.sequence items, r)
    | .flowMappingStart =>
      match flowEntries? handles fuel true r.skip with
      | some (children, r) => (Node.ofChildren? children).map fun node => (node, r)
      | none => none
    | .blockEntry =>
      if underKey then (items? handles fuel true r).map fun (items, r) => (.sequence items, r)
      else empty
    | .blockSequenceStart =>
      if block then
        (items? handles fuel false r.skip).map fun (items, r) => (.sequence items, r)
      else empty
    | .blockMappingStart =>
      if block then
        match entries? handles fuel r.skip with
        | some (children, r) => (Node.ofChildren? children).map fun node => (node, r)
        | none => none
      else empty
    | _ => empty

/-- Reads a node, which is missing if a token of a kind is next. -/
def optional? (handles : List (String × String)) :
    (fuel : Nat) → (missing : List Token) → (block underKey : Bool) → Remainder →
      Option (Node × Remainder)
  | 0, _, _, _, _ => none
  | fuel + 1, missing, block, underKey, r =>
    if missing.contains r.next then some (.null, r) else node? handles fuel block underKey r

/-- Reads the value of an entry, if there is one. -/
def value? (handles : List (String × String)) :
    (fuel : Nat) → (missing : List Token) → (block : Bool) → Remainder → Option (Node × Remainder)
  | 0, _, _, _ => none
  | fuel + 1, missing, block, r =>
    if r.next = .value then optional? handles fuel missing block block r.skip else some (.null, r)

/-- Reads the items of a block sequence.  Under a key it ends where no item follows. -/
def items? (handles : List (String × String)) :
    (fuel : Nat) → (underKey : Bool) → Remainder → Option (List Node × Remainder)
  | 0, _, _ => none
  | fuel + 1, underKey, r =>
    if r.next = .blockEntry then
      let missing : List Token :=
        if underKey then [.blockEntry, .key, .value, .blockEnd] else [.blockEntry, .blockEnd]
      match optional? handles fuel missing true false r.skip with
      | some (item, r) => (items? handles fuel underKey r).map fun (items, r) => (item :: items, r)
      | none => none
    else if underKey then some ([], r)
    else if r.next = .blockEnd then some ([], r.skip)
    else none

/-- Reads the keys and values of a block mapping in turn. -/
def entries? (handles : List (String × String)) :
    (fuel : Nat) → Remainder → Option (List Node × Remainder)
  | 0, _ => none
  | fuel + 1, r =>
    let missing : List Token := [.key, .value, .blockEnd]
    match r.next with
    | .blockEnd => some ([], r.skip)
    | .key =>
      match optional? handles fuel missing true true r.skip with
      | some (key, r) => entry? handles fuel key r
      | none => none
    | .value => entry? handles fuel .null r
    | _ => none

/-- Reads the value of a key in a block mapping, and the entries after it. -/
def entry? (handles : List (String × String)) :
    (fuel : Nat) → (key : Node) → Remainder → Option (List Node × Remainder)
  | 0, _, _ => none
  | fuel + 1, key, r =>
    match value? handles fuel [.key, .value, .blockEnd] true r with
    | some (value, r) =>
      (entries? handles fuel r).map fun (children, r) => (key :: value :: children, r)
    | none => none

/-- Reads the items of a flow sequence. -/
def flowItems? (handles : List (String × String)) :
    (fuel : Nat) → (first : Bool) → Remainder → Option (List Node × Remainder)
  | 0, _, _ => none
  | fuel + 1, first, r =>
    let separated := first || r.next = .flowEntry
    let r' := if first then r else r.skip
    if r.next = .flowSequenceEnd then some ([], r.skip)
    else if !separated then none
    else if r'.next = .flowSequenceEnd then some ([], r'.skip)
    else
      let item :=
        if r'.next = .key then pair? handles fuel r'.skip else node? handles fuel false false r'
      match item with
      | some (item, r) => (flowItems? handles fuel false r).map fun (items, r) => (item :: items, r)
      | none => none

/-- Reads a pair without braces in a flow sequence, from behind the sign of its key.  What
stands for a missing key is taken. -/
def pair? (handles : List (String × String)) :
    (fuel : Nat) → Remainder → Option (Node × Remainder)
  | 0, _ => none
  | fuel + 1, r =>
    let stops : List Token := [.flowEntry, .flowSequenceEnd]
    let key :=
      if (Token.value :: stops).contains r.next then some (Node.null, r.skip)
      else node? handles fuel false false r
    match key with
    | some (key, r) =>
      match value? handles fuel stops false r with
      | some (value, r) => (Node.ofChildren? [key, value]).map fun node => (node, r)
      | none => none
    | none => none

/-- Reads the keys and values of a flow mapping in turn.  A key without its sign has no
value. -/
def flowEntries? (handles : List (String × String)) :
    (fuel : Nat) → (first : Bool) → Remainder → Option (List Node × Remainder)
  | 0, _, _ => none
  | fuel + 1, first, r =>
    let separated := first || r.next = .flowEntry
    let r' := if first then r else r.skip
    let stops : List Token := [.flowEntry, .flowMappingEnd]
    if r.next = .flowMappingEnd then some ([], r.skip)
    else if !separated then none
    else
      match r'.next with
      | .flowMappingEnd => some ([], r'.skip)
      | .key =>
        match optional? handles fuel (.value :: stops) false false r'.skip with
        | some (key, r) => flowEntry? handles fuel key r
        | none => none
      | .value => flowEntry? handles fuel .null r'
      | _ =>
        match node? handles fuel false false r' with
        | some (key, r) =>
          (flowEntries? handles fuel false r).map fun (children, r) => (key :: .null :: children, r)
        | none => none

/-- Reads the value of a key in a flow mapping, and the entries after it. -/
def flowEntry? (handles : List (String × String)) :
    (fuel : Nat) → (key : Node) → Remainder → Option (List Node × Remainder)
  | 0, _, _ => none
  | fuel + 1, key, r =>
    match value? handles fuel [.flowEntry, .flowMappingEnd] false r with
    | some (value, r) =>
      (flowEntries? handles fuel false r).map fun (children, r) => (key :: value :: children, r)
    | none => none

end

/-- Reads the directives in front of a document: what the last of them says about handles.
There is one on the version at most. -/
def directives? : (versioned : Bool) → List (String × String) → List Token →
    Option (List (String × String) × List Token)
  | versioned, _, .versionDirective :: rest =>
    if versioned then none else directives? true [] rest
  | versioned, _, .tagDirective handle replacement :: rest =>
    directives? versioned [(handle, replacement)] rest
  | _, handles, tokens => some (handles, tokens)

/-- Whether a token ends a document without a node. -/
def endsDocument : Token → Bool
  | .versionDirective | .tagDirective _ _ | .documentStart | .documentEnd | .streamEnd => true
  | _ => false

/-- Reads the node of a document that goes on to the end of the text. -/
def root? (handles : List (String × String)) (tokens : List Token) : Option Node := do
  let (node, r) ← node? handles (8 * tokens.length + 8) true false { tokens := tokens }
  guard (r.tokens.dropWhile (· = .documentEnd) = [.streamEnd])
  return node

/-- Reads a document with the marker of its start. -/
def explicitRoot? (tokens : List Token) : Option Node := do
  let (handles, tokens) ← directives? false [] tokens
  match tokens with
  | .documentStart :: rest =>
    if rest.head?.any endsDocument then
      guard (rest.dropWhile (· = .documentEnd) = [.streamEnd])
      return .null
    else root? handles rest
  | _ => none

end Remainder

/-- The node of the only document of a text, or nothing inside if the text has none. -/
def document? (text : String) : Option (Option Node) := do
  let tokens := (← Token.ofText? text).dropWhile (· = .documentEnd)
  match tokens with
  | [.streamEnd] => return none
  | first :: _ =>
    if Remainder.endsDocument first then return some (← Remainder.explicitRoot? tokens)
    else return some (← Remainder.root? [] tokens)
  | [] => none

end PairQuote.Yaml
