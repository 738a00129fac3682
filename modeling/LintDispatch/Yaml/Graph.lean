import LintDispatch.Yaml.Node

/-!
The nodes of a document as cells of a graph. Every node has one cell, and a reference is the cell of
the node that it stands for, so what is done to a node is seen wherever it is referred to.
-/

namespace LintDispatch.Yaml

inductive Cell where
  | scalar (kind : Kind) (content : Content)
  | sequence (kind : Kind) (items : List Nat)
  | mapping (kind : Kind) (entries : List (Nat × Nat))
  deriving Repr, Inhabited

namespace Cell

def kind : Cell → Kind
  | .scalar k _ => k
  | .sequence k _ => k
  | .mapping k _ => k

def withKind (k : Kind) : Cell → Cell
  | .scalar _ c => .scalar k c
  | .sequence _ items => .sequence k items
  | .mapping _ entries => .mapping k entries

def isMapping : Cell → Bool
  | .mapping _ _ => true
  | _ => false

def entries : Cell → List (Nat × Nat)
  | .mapping _ entries => entries
  | _ => []

end Cell

abbrev Graph := Array Cell

namespace Graph

def blank : Cell := .scalar .null (.chars [])

def cell (g : Graph) (id : Nat) : Cell :=
  g.getD id blank

def kind (g : Graph) (id : Nat) : Kind :=
  (g.cell id).kind

def entries (g : Graph) (id : Nat) : List (Nat × Nat) :=
  (g.cell id).entries

def setKind (g : Graph) (id : Nat) (k : Kind) : Graph :=
  g.setIfInBounds id ((g.cell id).withKind k)

def setEntries (g : Graph) (id : Nat) (entries : List (Nat × Nat)) : Graph :=
  g.setIfInBounds id (.mapping (g.kind id) entries)

/-! Nodes become cells from the leaves up; the cells of `anchors` come first and are known by their
place among them. -/

mutual

def place (anchors : List (List Char)) (g : Graph) : Node → Graph × Nat
  | .scalar k c => (g.push (.scalar k c), g.size)
  | .sequence k items =>
    let (g, ids) := placeItems anchors g items
    (g.push (.sequence k ids), g.size)
  | .mapping k entries =>
    let (g, ids) := placeEntries anchors g entries
    (g.push (.mapping k ids), g.size)
  | .alias name => (g, anchors.idxOf name)

def placeItems (anchors : List (List Char)) (g : Graph) : List Node → Graph × List Nat
  | [] => (g, [])
  | n :: rest =>
    let (g, id) := place anchors g n
    let (g, ids) := placeItems anchors g rest
    (g, id :: ids)

def placeEntries (anchors : List (List Char)) (g : Graph) :
    List (Node × Node) → Graph × List (Nat × Nat)
  | [] => (g, [])
  | (k, v) :: rest =>
    let (g, key) := place anchors g k
    let (g, value) := place anchors g v
    let (g, ids) := placeEntries anchors g rest
    (g, (key, value) :: ids)

end

/-- Places the nodes that carry an anchor, `id` being the cell of the first. -/
def placeAnchored (anchors : List (List Char)) (id : Nat) (g : Graph) : List Node → Graph
  | [] => g
  | n :: rest =>
    let (g, at_) := place anchors g n
    placeAnchored anchors (id + 1) (g.setIfInBounds id (g.cell at_)) rest

/-- The graph of a document and the cell of its root. -/
def ofDocument (d : Document) : Graph × Nat :=
  let anchors := d.anchors.map Prod.fst
  let g := placeAnchored anchors 0 (Array.replicate anchors.length blank)
    (d.anchors.map Prod.snd)
  place anchors g d.root

/-! Merging. An entry whose key is `<<` leaves its mapping, and the entries that its value gives are
put in front. A key `=` becomes plain text. -/

/-- The entries of the mappings `ids`, each merged on its own; of several the first wins, so it
stands last. -/
def mergedItems (merge : Graph → Nat → Except Error Graph) (g : Graph) :
    List Nat → Except Error (Graph × List (Nat × Nat))
  | [] => .ok (g, [])
  | id :: rest =>
    if (g.cell id).isMapping then do
      let g ← merge g id
      let own := g.entries id
      let (g, others) ← mergedItems merge g rest
      return (g, others ++ own)
    else .error .malformed

/-- The entries that a value gives to the mapping that it is merged into. -/
def merged (merge : Graph → Nat → Except Error Graph) (g : Graph) (value : Nat) :
    Except Error (Graph × List (Nat × Nat)) :=
  match g.cell value with
  | .mapping _ _ => mergedItems merge g [value]
  | .sequence _ ids => mergedItems merge g ids
  | .scalar _ _ => .error .malformed

/-- Goes over `count` entries of the mapping `id` from `index` on; `found` is merged so far. A
mapping that is met again on the way is changed under way, and goes on from what it then is. -/
def mergeFrom (merge : Graph → Nat → Except Error Graph) (id : Nat) :
    Nat → Nat → List (Nat × Nat) → Graph → Except Error Graph
  | 0, _, found, g => .ok (g.setEntries id (found ++ g.entries id))
  | count + 1, index, found, g =>
    match (g.entries id)[index]? with
    | none => mergeFrom merge id count index found g
    | some (key, value) =>
      if g.kind key = .merge then do
        let g := g.setEntries id ((g.entries id).eraseIdx index)
        let (g, more) ← merged merge g value
        mergeFrom merge id count index (found ++ more) g
      else if g.kind key = .value then
        mergeFrom merge id count (index + 1) found (g.setKind key .str)
      else mergeFrom merge id count (index + 1) found g

/-- Does the merges of the mapping `id` and of all that is merged into it, at most `room` deep. -/
def merge : Nat → Graph → Nat → Except Error Graph
  | 0, _, _ => .error .recursion
  | room + 1, g, id => mergeFrom (merge room) id (g.entries id).length 0 [] g

end Graph

end LintDispatch.Yaml
