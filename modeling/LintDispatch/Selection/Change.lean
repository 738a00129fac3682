import LintDispatch.Disk.Tree
import LintDispatch.Text.Blank

/-!
Changed files. A source says which paths changed against a reference, and by which query it came to
know. The one that asks version control queries for the files that differ from the reference and for
those that are new, and is told one path a line.
-/

namespace LintDispatch

/-- A query for changed files and the paths that were reported. -/
structure Change where
  command : String
  files : List String
  deriving DecidableEq, Repr

/-- Says what changed against a reference, which may be empty, within some scopes. To find out may
leave its traces on the disk. -/
structure ChangeSource (ε : Type) where
  changed : Disk → String → List String → Disk × Except ε Change

namespace Change

def differing : String := "git diff --no-ext-diff --relative --name-only"

def untracked : String := "git ls-files --others --exclude-standard"

def queryCommand (reference : String) (scopes : List String) : String :=
  let within := " -- " ++ " ".intercalate scopes
  differing ++ " " ++ reference ++ within ++ " && " ++ untracked ++ within

/-- The paths on the lines: blanks around them do not count, nor do blank lines. -/
def reported (lines : List String) : List String :=
  (lines.map fun line => String.ofList (Text.trim line.toList)).filter fun path => path != ""

end Change

/-- The source that asks version control; `lines` runs a command and gives the lines it wrote. -/
def ChangeSource.git {ε : Type} (lines : Disk → String → Disk × Except ε (List String)) :
    ChangeSource ε where
  changed disk reference scopes :=
    let command := Change.queryCommand reference scopes
    let (disk, answer) := lines disk command
    (disk, answer.map fun lines => ⟨command, Change.reported lines⟩)

end LintDispatch
