import DumpSummary.Yaml.Node
import DumpSummary.Yaml.ScalarValue

/-!
# From nodes to values

The values of the nodes of a document.  Collections are filled in the order in which they are met, level by level, so
that of several faults the one at the outermost level is reported.

## Contents

* `Yaml.Shape`: the collections that tags ask for;
* `Yaml.mergeKeys`: a mapping with the entries that its merge keys bring in;
* `Yaml.Values`: the nodes of a document with the values of its scalars;
* `Values.datum`: the value of a node down to a depth;
* `Yaml.load`: the value of a text.
-/

namespace DumpSummary.Yaml

/-- Fails because a node has no value. -/
def unbuildable {α : Type} (headline : String) : Except Fault α :=
  .error ⟨.construction, headline⟩

/-- The collections that tags ask for. -/
inductive Shape
  /-- A list. -/
  | sequence
  /-- A mapping. -/
  | mapping
  /-- A set, written as a mapping. -/
  | set
  /-- A list of pairs with distinct keys. -/
  | ordered
  /-- A list of pairs. -/
  | pairs
  deriving DecidableEq, Repr

/-- The collection that a tag asks for. -/
def Shape.ofTag? (tag : String) : Option Shape :=
  if tag == standardTag "seq" then some .sequence
  else if tag == standardTag "map" then some .mapping
  else if tag == standardTag "set" then some .set
  else if tag == standardTag "omap" then some .ordered
  else if tag == standardTag "pairs" then some .pairs
  else none

/-- How messages name what a node holds. -/
def Content.label : Content → String
  | .scalar _ => "scalar"
  | .sequence _ => "sequence"
  | .mapping _ => "mapping"

/-- A table of nodes. -/
abbrev Nodes := Array Node

/-- A node of a table. -/
def Nodes.node (ns : Nodes) (id : Nat) : Node := (ns[id]?).getD ⟨"", .scalar ""⟩

/-- The entries of a mapping, none for another node. -/
def Nodes.entries (ns : Nodes) (id : Nat) : List (Nat × Nat) :=
  match (ns.node id).content with
  | .mapping es => es
  | _ => []

/-- The table with other entries of a mapping. -/
def Nodes.setEntries (ns : Nodes) (id : Nat) (es : List (Nat × Nat)) : Nodes :=
  ns.modify id fun n => { n with content := .mapping es }

/-! ## Merge keys -/

/-- Fills in what merge keys bring: the entries of other mappings, put before the entries of the mapping itself, which
therefore win; of several mappings in a list the first wins.  An equals sign as a key is a text.  `fuel` bounds the
nesting. -/
def mergeKeys : Nat → Nodes → Nat → Except Fault Nodes
  | 0, ns, _ => .ok ns
  | fuel + 1, ns, id => do
    let es := ns.entries id
    let isMerge (e : Nat × Nat) : Bool := (ns.node e.1).tag == standardTag "merge"
    let own := es.filter fun e => !isMerge e
    let ns := own.foldl (fun ns e =>
      if (ns.node e.1).tag == standardTag "value" then ns.modify e.1 fun n => { n with tag := standardTag "str" }
      else ns) ns
    let ns := ns.setEntries id own
    let bring (state : Nodes × List (Nat × Nat)) (source : Nat) : Except Fault (Nodes × List (Nat × Nat)) := do
      let ns ← mergeKeys fuel state.1 source
      return (ns, ns.entries source ++ state.2)
    let step (state : Nodes × List (Nat × Nat)) (e : Nat × Nat) : Except Fault (Nodes × List (Nat × Nat)) := do
      match (state.1.node e.2).content with
      | .mapping _ =>
        let (ns, more) ← bring (state.1, []) e.2
        return (ns, state.2 ++ more)
      | .sequence sources =>
        let (ns, more) ← sources.foldlM (fun s source =>
          match (s.1.node source).content with
          | .mapping _ => bring s source
          | _ => unbuildable "while constructing a mapping") (state.1, [])
        return (ns, state.2 ++ more)
      | .scalar _ => unbuildable "while constructing a mapping"
    let (ns, brought) ← (es.filter isMerge).foldlM step (ns, [])
    return if brought.isEmpty then ns else ns.setEntries id (brought ++ own)

/-! ## Values -/

/-- The nodes of a document with the values of its scalars. -/
structure Values where
  /-- The table of nodes, merge keys filled in. -/
  nodes : Nodes
  /-- The values of scalars, and whether a node is met at all. -/
  met : List (Nat × Option Datum)
  /-- The collections that are met but not filled, in order. -/
  waiting : List Nat

/-- The text of a node: of a scalar, or of the value that a mapping has for an equals sign. -/
def scalarText (ns : Nodes) : Nat → Nat → Except Fault String
  | 0, _ => unbuildable "expected a scalar node, but found mapping"
  | fuel + 1, id =>
    match (ns.node id).content with
    | .scalar text => .ok text
    | .mapping es =>
      match es.find? fun e => (ns.node e.1).tag == standardTag "value" with
      | some e => scalarText ns fuel e.2
      | none => unbuildable "expected a scalar node, but found mapping"
    | .sequence _ => unbuildable "expected a scalar node, but found sequence"

namespace Values

/-- Meets a node: reads a scalar, and puts a collection with those that wait. -/
def meet (v : Values) (id : Nat) : Except Fault Values :=
  if v.met.any (·.1 == id) then .ok v
  else
    let tag := (v.nodes.node id).tag
    match scalarReader? tag with
    | some read => do
      let text ← scalarText v.nodes (v.nodes.size + 1) id
      let datum ← read text
      return { v with met := (id, some datum) :: v.met }
    | none =>
      match Shape.ofTag? tag with
      | some _ => .ok { v with met := (id, none) :: v.met, waiting := v.waiting ++ [id] }
      | none => unbuildable ("could not determine a constructor for the tag " ++ Text.quoted tag)

/-- Meets a key, which must not be a collection. -/
def meetKey (v : Values) (id : Nat) : Except Fault Values := do
  let v ← v.meet id
  match v.met.lookup id with
  | some (some _) => return v
  | _ => unbuildable "while constructing a mapping"

/-- Meets the only entry of a mapping inside a list of pairs. -/
def meetPair (headline : String) (v : Values) (id : Nat) : Except Fault Values :=
  match (v.nodes.node id).content with
  | .mapping [e] => do (← v.meet e.1).meet e.2
  | _ => unbuildable headline

/-- Fills a collection: meets what it holds. -/
def fill (v : Values) (id : Nat) : Except Fault Values :=
  let content := (v.nodes.node id).content
  match Shape.ofTag? (v.nodes.node id).tag, content with
  | some .sequence, .sequence items => items.foldlM meet v
  | some .sequence, _ => unbuildable ("expected a sequence node, but found " ++ content.label)
  | some .ordered, .sequence items => items.foldlM (meetPair "while constructing an ordered map") v
  | some .ordered, _ => unbuildable "while constructing an ordered map"
  | some .pairs, .sequence items => items.foldlM (meetPair "while constructing pairs") v
  | some .pairs, _ => unbuildable "while constructing pairs"
  | some _, .mapping _ => do
    let ns ← mergeKeys (v.nodes.size + 1) v.nodes id
    (ns.entries id).foldlM (fun v e => do (← v.meetKey e.1).meet e.2) { v with nodes := ns }
  | some _, _ => unbuildable ("expected a mapping node, but found " ++ content.label)
  | none, _ => .ok v

/-- Fills the collections that wait; `fuel` bounds their number. -/
def fillAll : Nat → Values → Except Fault Values
  | 0, v => .ok v
  | fuel + 1, v =>
    match v.waiting with
    | [] => .ok v
    | id :: rest =>
      match fill { v with waiting := rest } id with
      | .error e => .error e
      | .ok v => fillAll fuel v

/-- The values of the nodes of a document. -/
def ofDocument (d : Document) : Except Fault Values := do
  let v ← meet ⟨d.nodes, [], []⟩ d.root
  fillAll (d.nodes.size + 1) v

/-- The value of a node down to a depth, null below it. -/
def datum (v : Values) : Nat → Nat → Datum
  | 0, _ => .null
  | depth + 1, id =>
    match v.met.lookup id with
    | some (some leaf) => leaf
    | _ =>
      let n := v.nodes.node id
      let pair (e : Nat × Nat) : Datum × Datum := (datum v depth e.1, datum v depth e.2)
      match n.content, Shape.ofTag? n.tag with
      | .sequence items, _ => .list (items.map (datum v depth))
      | .mapping es, some .set => .set (es.map fun e => datum v depth e.1)
      | .mapping es, _ => .mapping (es.map pair)
      | .scalar _, _ => .null

end Values

/-! ## From text -/

/-- The value of a text down to a depth: null for a text without a document. -/
def load (depth : Nat) (cs : List Char) : Except Fault Datum := do
  match ← Document.ofText? cs with
  | none => return .null
  | some d => return (← Values.ofDocument d).datum depth d.root

end DumpSummary.Yaml
