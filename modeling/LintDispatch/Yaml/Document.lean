import LintDispatch.Yaml.Construction
import LintDispatch.Yaml.Graph
import LintDispatch.Yaml.Node.Reader

/-!
The value of a document. A scalar has its value where it is first met; a collection is first met
empty and waits to be filled, in the order in which the collections were met. So the first error is
the one nearest to the root, and a collection may hold itself.
-/

namespace LintDispatch.Yaml

/-- What has become of a node: a scalar, or a collection of other nodes. -/
inductive Part where
  | scalar (s : Scalar)
  | list (items : List Nat)
  | map (entries : List (Nat × Nat))
  | set (members : List Nat)
  | pairs (entries : List (Nat × Nat))
  deriving Repr, Inhabited

structure Assembly where
  graph : Graph
  parts : Array (Option Part)
  waiting : List Nat
  deriving Repr

namespace Assembly

variable (depth : Depth)

/-- The text that a node gives where a scalar is wanted: its own, or that of the node under its key
`=`, which may lead on further; in a circle it leads on without end. -/
def content? (g : Graph) : Nat → Nat → Except Error Content
  | 0, _ => .error .recursion
  | room + 1, id =>
    match g.cell id with
    | .scalar _ c => .ok c
    | .mapping _ entries =>
      match entries.find? fun e => g.kind e.1 = .value with
      | some e => content? g room e.2
      | none => .error .malformed
    | .sequence _ _ => .error .malformed

def scalarAt (g : Graph) (id : Nat) : Except Error Scalar := do
  let c ← content? g depth.texts id
  if g.kind id = .timestamp && (g.cell id).isMapping then .error .timestampShape
  else Construction.scalar (g.kind id) c

def emptyPart : Kind → Part
  | .map => .map []
  | .set => .set []
  | .seq => .list []
  | _ => .pairs []

/-- Meets a node, which is nothing new if it has been met before. -/
def meet (a : Assembly) (id : Nat) : Except Error Assembly :=
  let k := a.graph.kind id
  if (a.parts.getD id none).isSome then .ok a
  else if Construction.isScalar k then
    (scalarAt depth a.graph id).map fun s =>
      { a with parts := a.parts.setIfInBounds id (some (.scalar s)) }
  else if Construction.isCollection k then
    .ok { a with
          parts := a.parts.setIfInBounds id (some (emptyPart k))
          waiting := a.waiting ++ [id] }
  else .error .malformed

/-- Meets the key of a mapping, which has to be a scalar. -/
def meetKey (a : Assembly) (id : Nat) : Except Error Assembly := do
  let a ← a.meet depth id
  if Construction.isScalar (a.graph.kind id) then return a else .error .malformed

def meetItems (a : Assembly) (ids : List Nat) : Except Error Assembly :=
  ids.foldlM (meet depth) a

def meetEntries (a : Assembly) (entries : List (Nat × Nat)) : Except Error Assembly :=
  entries.foldlM (fun a e => do (← a.meetKey depth e.1).meet depth e.2) a

/-- Meets the pairs of a list of mappings with one entry each. -/
def meetPairs (a : Assembly) : List Nat → Except Error (Assembly × List (Nat × Nat))
  | [] => .ok (a, [])
  | id :: rest =>
    match a.graph.entries id with
    | [e] => do
      let a ← a.meetItems depth [e.1, e.2]
      let (a, more) ← meetPairs a rest
      return (a, e :: more)
    | _ => .error .malformed

/-- Fills a collection by what its node holds. -/
def fill (a : Assembly) (id : Nat) : Except Error Assembly :=
  let finish (a : Assembly) (p : Part) : Assembly :=
    { a with parts := a.parts.setIfInBounds id (some p) }
  let mapping (make : List (Nat × Nat) → Part) : Except Error Assembly := do
    let g ← a.graph.merge depth.merges id
    let a ← ({ a with graph := g } : Assembly).meetEntries depth (g.entries id)
    return finish a (make (g.entries id))
  match a.graph.cell id with
  | .sequence .seq items => (a.meetItems depth items).map (finish · (.list items))
  | .mapping .map _ => mapping .map
  | .mapping .set _ => mapping fun entries => .set (entries.map Prod.fst)
  | .sequence .omap items => (a.meetPairs depth items).map fun r => finish r.1 (.pairs r.2)
  | .sequence .pairs items => (a.meetPairs depth items).map fun r => finish r.1 (.pairs r.2)
  | _ => .error .malformed

/-- Fills the collections that wait, fewer than `fuel` of them. -/
def fillAll : Nat → Assembly → Except Error Assembly
  | 0, _ => .error .recursion
  | fuel + 1, a =>
    match a.waiting with
    | [] => .ok a
    | id :: rest => do fillAll fuel (← ({ a with waiting := rest } : Assembly).fill depth id)

/-- All that a node leads to; every collection waits once. -/
def ofRoot (g : Graph) (root : Nat) : Except Error Assembly := do
  let a ← meet depth ⟨g, Array.replicate g.size none, []⟩ root
  a.fillAll depth (g.size + 1)

/-! Values of parts. Keys that are undefined numbers are the same only if they come from one node or
are written as the standard form. -/

/-- A scalar as a key, with what tells it from other keys of its form. -/
abbrev Key := Scalar × Nat

def sameKey (a b : Key) : Bool :=
  match a.1, b.1 with
  | .float .nan, .float .nan => a.2 == b.2
  | a, b => a.sameKey b

def keyAt (a : Assembly) (id : Nat) : Key :=
  match a.parts.getD id none with
  | some (.scalar s) =>
    match a.graph.cell id with
    | .scalar _ c => (s, if Construction.isStandardNan c then 0 else id + 1)
    | _ => (s, id + 1)
  | _ => (.null, 0)

/-- How often a node is followed inside itself. -/
def maxUnrolled : Nat := 3

/-- The value of a node; `path` are the nodes on the way to it. -/
def value (a : Assembly) : Nat → List Nat → Nat → Value
  | 0, _, _ => .null
  | fuel + 1, path, id =>
    let inner := a.value fuel (id :: path)
    let cut := maxUnrolled ≤ path.count id
    match a.parts.getD id none with
    | none => .null
    | some (.scalar s) => .scalar s
    | some (.list items) => .list (if cut then [] else items.map inner)
    | some (.pairs entries) =>
      .list (if cut then [] else entries.map fun e => .list [inner e.1, inner e.2])
    | some (.map entries) =>
      let entries := if cut then [] else entries.map fun e => (a.keyAt e.1, inner e.2)
      .map ((entries.foldl (fun acc e => Value.putBy sameKey acc e.1 e.2) []).map
        fun e => (e.1.1, e.2))
    | some (.set members) =>
      .set (((members.map a.keyAt).foldl (Value.addBy sameKey) []).map Prod.fst)

end Assembly

def Document.value (depth : Depth) (d : Document) : Except Error Value := do
  let (g, root) := Graph.ofDocument d
  let a ← Assembly.ofRoot depth g root
  return a.value (Assembly.maxUnrolled * g.size + 1) [] root

end LintDispatch.Yaml
