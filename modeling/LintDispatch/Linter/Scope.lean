/-!
The scope of a run: no scope at all, where every linter decides for itself what to look at, or the
list of files that the run is about.
-/

namespace LintDispatch

inductive Scope where
  | unscoped
  | files (paths : List String)
  deriving DecidableEq, Repr, Inhabited

namespace Scope

def isUnscoped : Scope → Bool
  | .unscoped => true
  | .files _ => false

def paths : Scope → List String
  | .unscoped => []
  | .files paths => paths

end Scope

end LintDispatch
