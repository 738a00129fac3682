import LintDispatch.Yaml.Kind

/-!
The nodes of a document: scalars, sequences, mappings, and references. A node that carries an anchor
is kept apart, and a reference stands in its own place too.
-/

namespace LintDispatch.Yaml

inductive Node where
  | scalar (kind : Kind) (content : Content)
  | sequence (kind : Kind) (items : List Node)
  | mapping (kind : Kind) (entries : List (Node × Node))
  | alias (anchor : List Char)
  deriving Repr, Inhabited

namespace Node

def kind : Node → Kind
  | .scalar k _ => k
  | .sequence k _ => k
  | .mapping k _ => k
  | .alias _ => .unknown

def empty : Node := .scalar .null (.chars [])

end Node

/-- A document: its root, and the nodes that carry an anchor. -/
structure Document where
  root : Node
  anchors : List (List Char × Node)
  deriving Repr

end LintDispatch.Yaml
