/-!
Reports of failures. A report says what kind of failure it is and what happened; the detail is what
a check found out about the data at fault.
-/

namespace LintDispatch

structure Report where
  kind : String
  message : String
  detail : String
  deriving DecidableEq, Repr

namespace Report

/-- A report without further detail. -/
def plain (kind message : String) : Report :=
  ⟨kind, message, ""⟩

/-- What happened, with the detail. -/
def cause (r : Report) : String :=
  r.message ++ r.detail

def text (r : Report) : String :=
  r.kind ++ ": " ++ r.cause

end Report

end LintDispatch
