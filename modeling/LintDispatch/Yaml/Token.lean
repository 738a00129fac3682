import LintDispatch.Yaml.Value

/-!
The tokens of a document. Blocks that are shown by indentation have tokens of their own for their
start and end, so the structure can be read off the tokens alone.
-/

namespace LintDispatch.Yaml

/-- The content of a scalar. Escapes can name code points that are no characters. -/
inductive Content where
  | chars (s : List Char)
  | points (ps : List Nat)
  deriving DecidableEq, Repr, Inhabited

inductive Directive where
  | version (major : Nat)
  | handle (name : List Char) (leader : List Char)
  | other
  deriving DecidableEq, Repr

inductive Token where
  | streamEnd
  | directive (d : Directive)
  | documentStart
  | documentEnd
  | blockSequence
  | blockMapping
  | blockEnd
  | flowSequence
  | flowSequenceEnd
  | flowMapping
  | flowMappingEnd
  | blockEntry
  | flowEntry
  | key
  | value
  | alias (name : List Char)
  | anchor (name : List Char)
  | tag (handle : Option (List Char)) (suffix : List Char)
  | scalar (content : Content) (plain : Bool)
  deriving DecidableEq, Repr

def Content.ofPoints (ps : List Nat) : Content :=
  if ps.all fun p => decide p.isValidChar then .chars (ps.map Char.ofNat) else .points ps

end LintDispatch.Yaml
