/-
**The nodes of a YAML document.**

* `Node` — a scalar, a sequence or a mapping, with its kind.
* `Node.ofTokens?` — the single node of a stream of tokens; a stream without a document has none. An
  alias is the node that its anchor names.
-/

import QueryDesk.Yaml.Token
import QueryDesk.Yaml.Resolve

namespace QueryDesk.Yaml

/-- A node. -/
inductive Node where
  | scalar (kind : Tag) (text : String)
  | sequence (kind : Tag) (items : List Node)
  | mapping (kind : Tag) (entries : List (Node × Node))
deriving Repr

/-- The scalar that stands where nothing is written. -/
def Node.empty : Node := .scalar .null ""

/-- What is known while nodes are put together: the tokens that follow and why no further ones do,
the nodes that anchors name, and what handles in front of tags stand for. An anchor without a node
names one that has not ended. -/
structure Composer where
  tokens : List Token
  fault : YamlFault
  anchors : List (String × Option Node)
  handles : List (String × String)

/-- Puts nodes together. -/
abbrev Compose := StateT Composer (Except YamlFault)

namespace Compose

/-! ### Tokens -/

/-- The next token. -/
def peek : Compose Token := do
  match (← get).tokens with
  | token :: _ => return token
  | [] => throw (← get).fault

/-- Passes over the next token. -/
def skip : Compose Unit := do
  let _ ← peek
  modify fun composer => { composer with tokens := composer.tokens.tail }

/-- Passes over a token if it comes next. -/
def accept (wanted : Token) : Compose Bool := do
  if (← peek) = wanted then skip; return true else return false

/-- Passes over a token, which has to come next. -/
def expect (wanted : Token) : Compose Unit := do
  if !(← accept wanted) then throw .parser

/-- Whether one of several tokens comes next. -/
def atOneOf (wanted : List Token) : Compose Bool := return wanted.contains (← peek)

/-! ### Properties of nodes -/

/-- The anchor and the tag in front of a node, in any order. -/
def properties : Nat → Option String → Option (Option String × String) →
    Compose (Option String × Option (Option String × String))
  | 0, anchor, tag => return (anchor, tag)
  | bound + 1, anchor, tag => do
    match ← peek with
    | .anchor name =>
      if anchor.isSome then return (anchor, tag)
      else
        skip
        properties bound (some name) tag
    | .tag handle rest =>
      if tag.isSome then return (anchor, tag)
      else
        skip
        properties bound anchor (some (handle, rest))
    | _ => return (anchor, tag)

/-- The full name of a tag. -/
def tagName (tag : Option String × String) : Compose String := do
  match tag with
  | (none, name) => return name
  | (some handle, rest) =>
    match (← get).handles.lookup handle with
    | some meaning => return meaning ++ rest
    | none => throw .parser

/-- An anchor that names no node yet. -/
def claim (anchor : Option String) : Compose Unit := do
  match anchor with
  | none => return ()
  | some name =>
    if ((← get).anchors.lookup name).isSome then throw .composer
    else modify fun composer => { composer with anchors := (name, none) :: composer.anchors }

/-- The node that an anchor names. -/
def name (anchor : Option String) (node : Node) : Compose Node := do
  match anchor with
  | none => return node
  | some name =>
    modify fun composer => { composer with anchors := (name, some node) :: composer.anchors }
    return node

/-- The kind of a node: the one its tag names, or another if there is no tag that names one. -/
def kindOr (tag : Option String) (otherwise : Tag) : Tag :=
  match tag with
  | none | some "!" => otherwise
  | some name => .ofName name

/-- The kind of a scalar. A plain one without a tag is what its text tells, and so is any scalar
under the empty tag. -/
def scalarKind (tag : Option String) (plain : Bool) (text : String) : Tag :=
  if tag = some "!" || (tag.isNone && plain) then .ofPlain text else kindOr tag .text

/-! ### Collections -/

/-- How the nodes one level further in are put together: whether block collections may stand there,
and whether entries may stand there without a start. -/
abbrev Inner := Bool → Bool → Compose Node

/-- A node, or nothing where one of several tokens comes next. -/
def nodeOrEmpty (inner : Inner) (block bare : Bool) (ends : List Token) : Compose Node := do
  if ← atOneOf ends then return .empty else inner block bare

/-- The entries of a block sequence. -/
def blockItems (inner : Inner) : Nat → Compose (List Node)
  | 0 => throw .parser
  | bound + 1 => do
    if ← accept .blockEntry then
      let item ← nodeOrEmpty inner true false [.blockEntry, .blockEnd]
      return item :: (← blockItems inner bound)
    else
      expect .blockEnd
      return []

/-- The entries of a sequence that is not indented. -/
def bareItems (inner : Inner) : Nat → Compose (List Node)
  | 0 => throw .parser
  | bound + 1 => do
    if ← accept .blockEntry then
      let item ← nodeOrEmpty inner true false [.blockEntry, .key, .value, .blockEnd]
      return item :: (← bareItems inner bound)
    else return []

/-- The entries of a block mapping. -/
def blockEntries (inner : Inner) : Nat → Compose (List (Node × Node))
  | 0 => throw .parser
  | bound + 1 => do
    if ← accept .blockEnd then return []
    else
      let ends := [Token.key, .value, .blockEnd]
      let hasKey ← accept .key
      let key ← if hasKey then nodeOrEmpty inner true true ends else throw .parser
      let value ← if ← accept .value then nodeOrEmpty inner true true ends else pure .empty
      return (key, value) :: (← blockEntries inner bound)

/-- The value of an entry between brackets or braces. -/
def flowValue (inner : Inner) (closing : Token) : Compose Node := do
  if ← accept .value then nodeOrEmpty inner false false [.flowEntry, closing] else return .empty

/-- The key of an entry between brackets or braces, behind its mark. -/
def flowKey (inner : Inner) (closing : Token) : Compose Node :=
  nodeOrEmpty inner false false [.value, .flowEntry, closing]

/-- The comma in front of all entries but the first. -/
def separator (first : Bool) : Compose Unit := do
  if !first then expect .flowEntry

/-- The entries of a sequence in brackets. An entry with a colon is a mapping of one entry. -/
def flowItems (inner : Inner) : Nat → Bool → Compose (List Node)
  | 0, _ => throw .parser
  | bound + 1, first => do
    if ← accept .flowSequenceEnd then return []
    else
      separator first
      if ← accept .key then
        let key ← flowKey inner .flowSequenceEnd
        let value ← flowValue inner .flowSequenceEnd
        return .mapping .mapping [(key, value)] :: (← flowItems inner bound false)
      else if ← accept .flowSequenceEnd then return []
      else
        let item ← inner false false
        return item :: (← flowItems inner bound false)

/-- The entries of a mapping in braces. -/
def flowEntries (inner : Inner) : Nat → Bool → Compose (List (Node × Node))
  | 0, _ => throw .parser
  | bound + 1, first => do
    if ← accept .flowMappingEnd then return []
    else
      separator first
      if ← accept .key then
        let key ← flowKey inner .flowMappingEnd
        let value ← flowValue inner .flowMappingEnd
        return (key, value) :: (← flowEntries inner bound false)
      else if ← accept .flowMappingEnd then return []
      else
        let key ← inner false false
        return (key, .empty) :: (← flowEntries inner bound false)

/-! ### Nodes and documents -/

/-- A node of at most the given depth. -/
def node : Nat → Inner
  | 0, _, _ => throw .parser
  | depth + 1, block, bare => do
    let inner := node depth
    let bound := (← get).tokens.length + 1
    match ← peek with
    | .reference name =>
      skip
      match (← get).anchors.lookup name with
      | some (some node) => return node
      | _ => throw .composer
    | _ =>
      let (anchor, written) ← properties 2 none none
      let tag ← written.mapM tagName
      match ← peek with
      | .blockEntry =>
        if bare then
          claim anchor
          name anchor (.sequence (kindOr tag .sequence) (← bareItems inner bound))
        else if anchor.isNone && tag.isNone then throw .parser
        else
          claim anchor
          name anchor (.scalar (scalarKind tag true "") "")
      | .scalar text plain =>
        skip
        claim anchor
        name anchor (.scalar (scalarKind tag plain text) text)
      | .flowSequenceStart =>
        skip
        claim anchor
        name anchor (.sequence (kindOr tag .sequence) (← flowItems inner bound true))
      | .flowMappingStart =>
        skip
        claim anchor
        name anchor (.mapping (kindOr tag .mapping) (← flowEntries inner bound true))
      | other =>
        if block && other = .blockSequenceStart then
          skip
          claim anchor
          name anchor (.sequence (kindOr tag .sequence) (← blockItems inner bound))
        else if block && other = .blockMappingStart then
          skip
          claim anchor
          name anchor (.mapping (kindOr tag .mapping) (← blockEntries inner bound))
        else if anchor.isNone && tag.isNone then throw .parser
        else
          claim anchor
          name anchor (.scalar (scalarKind tag true "") "")

/-- The handles that are known without a directive. -/
def standardHandles : List (String × String) := [("!", "!"), ("!!", "tag:yaml.org,2002:")]

/-- The directives in front of a document: whether there was a version, and the handles. -/
def directives : Nat → Bool → List (String × String) → Compose (List (String × String))
  | 0, _, handles => return handles
  | bound + 1, versioned, handles => do
    match ← peek with
    | .version major =>
      skip
      if versioned || major ≠ 1 then throw .parser
      directives bound true handles
    | .tagHandle handle meaning =>
      skip
      if (handles.lookup handle).isSome then throw .parser
      directives bound versioned ((handle, meaning) :: handles)
    | .directive =>
      skip
      directives bound versioned handles
    | _ => return handles

/-- Passes over the ends of documents. -/
def skipEnds : Nat → Compose Unit
  | 0 => return ()
  | bound + 1 => do
    if ← accept .documentEnd then skipEnds bound

/-- Whether a directive comes next. -/
def atDirective : Compose Bool := do
  match ← peek with
  | .version _ | .tagHandle .. | .directive => return true
  | _ => return false

/-- The start of a document that says so: its directives and its mark. -/
def documentStart (bound : Nat) : Compose Unit := do
  let handles ← directives bound false []
  expect .documentStart
  modify fun composer => { composer with handles := handles ++ standardHandles }

/-- The only document of a stream. -/
def stream (bound : Nat) : Compose (Option Node) := do
  let announced ← atOneOf [.documentStart, .streamEnd] <||> atDirective
  if announced then
    if (← peek) = .streamEnd then return none
    documentStart bound
  let hollow ← atOneOf [.documentStart, .documentEnd, .streamEnd] <||> atDirective
  let found ← if announced && hollow then pure .empty else node bound true false
  skipEnds bound
  if (← peek) = .streamEnd then return some found
  else
    documentStart bound
    throw .composer

end Compose

/-- The single node of a stream of tokens. -/
def Node.ofTokens? (tokens : List Token) (fault : YamlFault) : Except YamlFault (Option Node) :=
  let bound := tokens.length + 1
  (StateT.run (Compose.stream bound) ⟨tokens, fault, [], Compose.standardHandles⟩).map Prod.fst

end QueryDesk.Yaml
