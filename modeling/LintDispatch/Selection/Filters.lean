import LintDispatch.PathSpec.Expansion

/-!
The two filters of a run. The whitelist holds the files in the root and those that a source spec
stands for, the blacklist those that an ignored spec stands for. Each is computed when it is first
asked for and kept from then on; a failed computation is not kept.
-/

namespace LintDispatch

structure Filters where
  root : Path
  sourceSpecs : List String
  ignoredSpecs : List String
  knownWhitelist : Option FileSet
  knownBlacklist : Option FileSet
  deriving Repr

namespace Filters

def fresh (root : Path) (sourceSpecs ignoredSpecs : List String) : Filters :=
  ⟨root, sourceSpecs, ignoredSpecs, none, none⟩

def computeWhitelist (f : Filters) (disk : Disk) : Except PathSpec.Error FileSet :=
  match PathSpec.rootFiles disk f.root, PathSpec.expandAll disk f.root f.sourceSpecs with
  | .ok files, .ok expanded => .ok (files.union expanded)
  | .error e, _ => .error e
  | _, .error e => .error e

def computeBlacklist (f : Filters) (disk : Disk) : Except PathSpec.Error FileSet :=
  PathSpec.expandAll disk f.root f.ignoredSpecs

def whitelist (f : Filters) (disk : Disk) : Filters × Except PathSpec.Error FileSet :=
  match f.knownWhitelist with
  | some files => (f, .ok files)
  | none =>
    match f.computeWhitelist disk with
    | .ok files => ({ f with knownWhitelist := some files }, .ok files)
    | .error e => (f, .error e)

def blacklist (f : Filters) (disk : Disk) : Filters × Except PathSpec.Error FileSet :=
  match f.knownBlacklist with
  | some files => (f, .ok files)
  | none =>
    match f.computeBlacklist disk with
    | .ok files => ({ f with knownBlacklist := some files }, .ok files)
    | .error e => (f, .error e)

theorem whitelist_known {f : Filters} {files : FileSet} (disk : Disk)
    (h : f.knownWhitelist = some files) : f.whitelist disk = (f, .ok files) := by
  simp [whitelist, h]

theorem blacklist_known {f : Filters} {files : FileSet} (disk : Disk)
    (h : f.knownBlacklist = some files) : f.blacklist disk = (f, .ok files) := by
  simp [blacklist, h]

end Filters

end LintDispatch
