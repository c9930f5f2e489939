import DumpSummary.Yaml.TokenStream
import DumpSummary.Yaml.ImplicitTag
import DumpSummary.Text.Quoted

/-!
# The nodes of a document

A document is a graph of nodes: scalars, sequences of nodes, and mappings from nodes to nodes, each with a tag.  A node
that has a name can occur in several places, also inside itself, so nodes are kept in a table and refer to each other
by their numbers there.

## Contents

* `Yaml.Content`, `Yaml.Node`, `Yaml.Document`: the types;
* `Yaml.Composition`: the state in which tokens are put together;
* `Document.ofText?`: the document of a text.
-/

namespace DumpSummary.Yaml

/-- What a node holds. -/
inductive Content
  /-- A text. -/
  | scalar (text : String)
  /-- Nodes in order. -/
  | sequence (items : List Nat)
  /-- Pairs of a key and a value in order. -/
  | mapping (entries : List (Nat × Nat))
  deriving DecidableEq, Repr, Inhabited

/-- A node. -/
structure Node where
  /-- The full name of its tag. -/
  tag : String
  /-- What it holds. -/
  content : Content
  deriving DecidableEq, Repr, Inhabited

/-- A document: its nodes and the number of the outermost one. -/
structure Document where
  /-- The table of nodes. -/
  nodes : Array Node
  /-- The outermost node. -/
  root : Nat
  deriving Repr

/-- The state in which tokens are put together. -/
structure Composition where
  /-- The tokens to come. -/
  stream : TokenStream
  /-- The nodes so far. -/
  nodes : Array Node
  /-- The names of nodes. -/
  anchors : List (String × Nat)
  /-- The short forms of tags. -/
  handles : List (String × String)

/-- A step of putting tokens together. -/
abbrev Compose := StateT Composition (Except Fault)

namespace Compose

/-- Fails because the tokens form no document. -/
def misplaced {α : Type} (headline : String) : Compose α :=
  throw ⟨.document, headline⟩

/-- The next token, which stays. -/
def peek : Compose Token := do
  let s ← get
  match s.stream.peek with
  | .error e => throw e
  | .ok (t, stream) =>
    set { s with stream := stream }
    return t

/-- Takes the next token. -/
def skip : Compose Unit := do
  let _ ← peek
  modify fun s => { s with stream := s.stream.pop }

/-- Takes the next token if it is that one; tells whether it is. -/
def skipIf (t : Token) : Compose Bool := do
  if (← peek) == t then
    skip
    return true
  else return false

/-- Adds a node and gives its number. -/
def add (n : Node) : Compose Nat := do
  let s ← get
  set { s with nodes := s.nodes.push n }
  return s.nodes.size

/-- The node of an empty place, which is null. -/
def empty : Compose Nat := add ⟨standardTag "null", .scalar ""⟩

/-- Fills a node whose number is known. -/
def fill (id : Nat) (content : Content) : Compose Unit :=
  modify fun s => { s with nodes := s.nodes.modify id fun n => { n with content := content } }

/-- Gives a node a name. -/
def nameNode (anchor : Option String) (id : Nat) : Compose Unit :=
  match anchor with
  | some a => modify fun s => { s with anchors := (a, id) :: s.anchors }
  | none => pure ()

/-- The full name of a tag. -/
def fullTag : Option String → String → Compose String
  | none, suffix => return suffix
  | some h, suffix => do
    match (← get).handles.lookup h with
    | some expansion => return expansion ++ suffix
    | none => misplaced "while parsing a node"

/-- The name and the tag before a node, in either order. -/
def properties : Compose (Option String × Option String) := do
  match ← peek with
  | .anchor a =>
    skip
    match ← peek with
    | .tag h suffix =>
      skip
      return (some a, some (← fullTag h suffix))
    | _ => return (some a, none)
  | .tag h suffix =>
    skip
    match ← peek with
    | .anchor a =>
      skip
      return (some a, some (← fullTag h suffix))
    | _ => return (none, some (← fullTag h suffix))
  | _ => return (none, none)

/-- Refuses a name that another node has. -/
def checkFresh (anchor : Option String) : Compose Unit := do
  match anchor with
  | some a =>
    if ((← get).anchors.lookup a).isSome then
      throw ⟨.node, "found duplicate anchor " ++ Text.quoted a ++ "; first occurrence"⟩
  | none => pure ()

/-- The tag that a node has by itself when none or only an exclamation mark is written. -/
def tagOr (tag : Option String) (default : String) : String :=
  match tag with
  | none => standardTag default
  | some t => if t == "!" then standardTag default else t

/-- Adds a scalar.  Its text decides the tag where none is written and it is plain, or where an exclamation mark is
written. -/
def addScalar (anchor tag : Option String) (plain : Bool) (text : String) : Compose Nat := do
  checkFresh anchor
  let full := match tag with
    | none => if plain then plainTag text else standardTag "str"
    | some t => if t == "!" then plainTag text else t
  let id ← add ⟨full, .scalar text⟩
  nameNode anchor id
  return id

mutual

/-- A node.  `block` tells whether it may be laid out by indentation, and `indentless` whether the items of a sequence
may stand at the column of their key. -/
def node : Nat → Bool → Bool → Compose Nat
  | 0, _, _ => misplaced "while parsing a node"
  | fuel + 1, block, indentless => do
    match ← peek with
    | .alias a =>
      skip
      match (← get).anchors.lookup a with
      | some id => return id
      | none => throw ⟨.node, "found undefined alias " ++ Text.quoted a⟩
    | _ =>
      let (anchor, tag) ← properties
      let collection (default : String) (rest : Nat → Compose Content) : Compose Nat := do
        checkFresh anchor
        let id ← add ⟨tagOr tag default, .scalar ""⟩
        nameNode anchor id
        fill id (← rest id)
        return id
      match ← peek with
      | .blockEntry =>
        if indentless then collection "seq" fun _ => Content.sequence <$> indentlessItems fuel
        else unexpected anchor tag block
      | .scalar text plain =>
        skip
        addScalar anchor tag plain text
      | .flowSequenceStart => collection "seq" fun _ => skip *> Content.sequence <$> flowItems fuel true
      | .flowMappingStart => collection "map" fun _ => skip *> Content.mapping <$> flowEntries fuel true
      | .blockSequenceStart =>
        if block then collection "seq" fun _ => skip *> Content.sequence <$> blockItems fuel
        else unexpected anchor tag block
      | .blockMappingStart =>
        if block then collection "map" fun _ => skip *> Content.mapping <$> blockEntries fuel
        else unexpected anchor tag block
      | _ => unexpected anchor tag block

/-- The node where no content stands: null or empty if a name or a tag is written, and a fault otherwise. -/
def unexpected (anchor tag : Option String) (block : Bool) : Compose Nat :=
  if anchor.isSome || tag.isSome then addScalar anchor tag true ""
  else misplaced (if block then "while parsing a block node" else "while parsing a flow node")

/-- The items of a sequence by indentation, up to its end. -/
def blockItems : Nat → Compose (List Nat)
  | 0 => misplaced "while parsing a block collection"
  | fuel + 1 => do
    match ← peek with
    | .blockEntry =>
      skip
      let id ← match ← peek with
        | .blockEntry => empty
        | .blockEnd => empty
        | _ => node fuel true false
      return id :: (← blockItems fuel)
    | .blockEnd =>
      skip
      return []
    | _ => misplaced "while parsing a block collection"

/-- The items of a sequence at the column of its key. -/
def indentlessItems : Nat → Compose (List Nat)
  | 0 => misplaced "while parsing a block collection"
  | fuel + 1 => do
    if ← skipIf .blockEntry then
      let id ← match ← peek with
        | .blockEntry => empty
        | .key => empty
        | .value => empty
        | .blockEnd => empty
        | _ => node fuel true false
      return id :: (← indentlessItems fuel)
    else return []

/-- The key or the value behind its sign in a mapping by indentation, possibly empty. -/
def blockPart : Nat → Compose Nat
  | 0 => misplaced "while parsing a block mapping"
  | fuel + 1 => do
    match ← peek with
    | .key => empty
    | .value => empty
    | .blockEnd => empty
    | _ => node fuel true true

/-- The entries of a mapping by indentation, up to its end. -/
def blockEntries : Nat → Compose (List (Nat × Nat))
  | 0 => misplaced "while parsing a block mapping"
  | fuel + 1 => do
    match ← peek with
    | .blockEnd =>
      skip
      return []
    | .key =>
      skip
      let key ← blockPart fuel
      let value ← if ← skipIf .value then blockPart fuel else empty
      return (key, value) :: (← blockEntries fuel)
    | _ => misplaced "while parsing a block mapping"

/-- The items of a sequence in brackets, up to the closing one; a pair inside is a mapping of its own. -/
def flowItems : Nat → Bool → Compose (List Nat)
  | 0, _ => misplaced "while parsing a flow sequence"
  | fuel + 1, first => do
    if ← skipIf .flowSequenceEnd then return []
    else
      if !first then
        if !(← skipIf .flowEntry) then misplaced "while parsing a flow sequence"
      match ← peek with
      | .flowSequenceEnd =>
        skip
        return []
      | .key =>
        let id ← add ⟨standardTag "map", .scalar ""⟩
        skip
        let key ← flowPart fuel .flowSequenceEnd true
        let value ← if ← skipIf .value then flowPart fuel .flowSequenceEnd false else empty
        fill id (.mapping [(key, value)])
        return id :: (← flowItems fuel false)
      | _ =>
        let id ← node fuel false false
        return id :: (← flowItems fuel false)

/-- The key or the value behind its sign in brackets or braces, possibly empty.  A value sign ends only a key. -/
def flowPart : Nat → Token → Bool → Compose Nat
  | 0, _, _ => misplaced "while parsing a flow node"
  | fuel + 1, closing, isKey => do
    let t ← peek
    if t == .flowEntry || t == closing || (isKey && t == .value) then empty else node fuel false false

/-- The entries of a mapping in braces, up to the closing one; an item without a sign is a key without a value. -/
def flowEntries : Nat → Bool → Compose (List (Nat × Nat))
  | 0, _ => misplaced "while parsing a flow mapping"
  | fuel + 1, first => do
    if ← skipIf .flowMappingEnd then return []
    else
      if !first then
        if !(← skipIf .flowEntry) then misplaced "while parsing a flow mapping"
      match ← peek with
      | .flowMappingEnd =>
        skip
        return []
      | .key =>
        skip
        let key ← flowPart fuel .flowMappingEnd true
        let value ← if ← skipIf .value then flowPart fuel .flowMappingEnd false else empty
        return (key, value) :: (← flowEntries fuel false)
      | _ =>
        let key ← node fuel false false
        let value ← empty
        return (key, value) :: (← flowEntries fuel false)

end

/-! ## Documents -/

/-- Takes the marks after documents. -/
def skipDocumentEnds : Nat → Compose Unit
  | 0 => pure ()
  | fuel + 1 => do
    if ← skipIf .documentEnd then skipDocumentEnds fuel

/-- The directives before a document: whether a version is given, and the short forms of tags. -/
def directives : Nat → Bool → List (String × String) → Compose (List (String × String))
  | 0, _, handles => return handles
  | fuel + 1, versioned, handles => do
    match ← peek with
    | .directive d =>
      skip
      match d with
      | .version major _ =>
        if versioned then misplaced "found duplicate YAML directive"
        else if major != 1 then misplaced "found incompatible document (version 1.* is required)"
        else directives fuel true handles
      | .handle name expansion =>
        if (handles.lookup name).isSome then misplaced ("duplicate tag handle " ++ Text.quoted name)
        else directives fuel versioned (handles ++ [(name, expansion)])
      | .other => directives fuel versioned handles
    | _ => return handles

/-- The short forms that every document knows. -/
def standardHandles : List (String × String) := [("!", "!"), ("!!", standardTags)]

/-- The beginning of a document with its mark, after marks of ends; false at the end of everything. -/
def explicitStart (fuel : Nat) : Compose Bool := do
  skipDocumentEnds fuel
  if (← peek) == .streamEnd then return false
  else
    let handles ← directives fuel false []
    let t ← peek
    if t != .documentStart then
      misplaced ("expected '<document start>', but found " ++ Text.quoted t.label)
    else
      skip
      modify fun s => { s with handles := handles ++ standardHandles, anchors := [] }
      return true

/-- The outermost node of a document that begins with its mark. -/
def explicitContent (fuel : Nat) : Compose Nat := do
  match ← peek with
  | .directive _ => empty
  | .documentStart => empty
  | .documentEnd => empty
  | .streamEnd => empty
  | _ => node fuel true false

/-- The only document of a text, if there is one. -/
def single (fuel : Nat) : Compose (Option Nat) := do
  skip
  let explicit := match ← peek with
    | .directive _ => true
    | .documentStart => true
    | .streamEnd => true
    | _ => false
  let root ←
    if explicit then
      if ← explicitStart fuel then some <$> explicitContent fuel else pure none
    else
      modify fun s => { s with handles := standardHandles }
      some <$> node fuel true false
  if root.isNone then return none
  else
    let _ ← skipIf .documentEnd
    if ← explicitStart fuel then throw ⟨.node, "expected a single document in the stream"⟩
    else return root

end Compose

/-! ## From text -/

/-- Whether a document may hold the character. -/
def isAllowed (c : Char) : Bool :=
  let n := c.toNat
  n == 9 || n == 10 || n == 13 || (0x20 ≤ n && n ≤ 0x7e) || n == 0x85 || (0xa0 ≤ n && n ≤ 0xd7ff)
    || (0xe000 ≤ n && n ≤ 0xfffd) || 0x10000 ≤ n

/-- The document of a text; `none` for a text without one. -/
def Document.ofText? (cs : List Char) : Except Fault (Option Document) :=
  match cs.find? fun c => !isAllowed c with
  | some c =>
    .error ⟨.character, "unacceptable character #x" ++ String.ofList (Text.hexDigits 4 c.toNat)
      ++ ": special characters are not allowed"⟩
  | none =>
    let fuel := 8 * cs.length + 64
    match (Compose.single fuel).run ⟨.start cs, #[], [], []⟩ with
    | .error e => .error e
    | .ok (none, _) => .ok none
    | .ok (some root, s) => .ok (some ⟨s.nodes, root⟩)

end DumpSummary.Yaml
