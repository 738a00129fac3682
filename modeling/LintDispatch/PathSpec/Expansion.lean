import LintDispatch.Console.Report
import LintDispatch.Disk.Tree
import LintDispatch.FileSet

/-!
Path specs. A spec stands for every file whose path starts with the spec's own path, and for the
files anywhere below such a directory; names with a leading dot are passed over unless the spec
spells the dot. The expansion walks the disk, links followed, and gives the files as paths seen from
the root.
-/

namespace LintDispatch.PathSpec

/-- A directory of the spec's path holds a NUL character, which no file system takes. -/
inductive Error where
  | nullCharacter
  deriving DecidableEq, Repr

def Error.message : Error → String
  | .nullCharacter => "embedded null byte"

def Error.report (e : Error) : Report :=
  .plain "ValueError" e.message

/-- A directory with a wildcard character in its name is found by reading its parent. -/
def isPattern (name : FileName) : Bool :=
  name.any fun c => c = '*' || c = '?' || c = '['

/-- Directories are opened by name up to the first one that has to be searched for. -/
def opensNull (directories : List FileName) : Bool :=
  (directories.takeWhile fun name => !isPattern name).any fun name => name.contains '\x00'

/-- The names that a last component stands for. -/
def matchesStart (start name : FileName) : Bool :=
  start.isPrefixOf name && (!Path.isHidden name || Path.isHidden start)

/-- No path that can be followed is longer. -/
def depthBound (disk : Disk) : Nat :=
  (Disk.maxLinks + 1) * (disk.entries.length + 1)

/-- Everything below the directory where one arrived, hidden names left out. -/
def descend (disk : Disk) : Nat → Disk.Arrival → List (List FileName)
  | 0, _ => []
  | depth + 1, arrival =>
    (disk.names arrival.place).flatMap fun name =>
      if Path.isHidden name then []
      else
        let below :=
          match disk.follow arrival.links arrival.place [name] with
          | .ok next =>
            match next.entry with
            | .directory => (descend disk depth next).map (name :: ·)
            | _ => []
          | .error _ => []
        [name] :: below

/-- The path of one entry of a directory, and the paths of everything below it. -/
def withDescendants (disk : Disk) (directory : Disk.Arrival) (name : FileName) :
    List (List FileName) :=
  [name] ::
    match disk.follow directory.links directory.place [name] with
    | .ok next =>
      match next.entry with
      | .directory => (descend disk (depthBound disk) next).map (name :: ·)
      | _ => []
    | .error _ => []

def directory? (disk : Disk) (parts : List FileName) : Option Disk.Arrival :=
  match disk.arrive parts with
  | .ok arrival => if arrival.entry = .directory then some arrival else none
  | .error _ => none

def startingNames (disk : Disk) (directory : Disk.Arrival) (start : FileName) : List FileName :=
  (disk.names directory.place).filter (matchesStart start)

/-- The paths below `parent` that a last component stands for, files and directories alike. -/
def candidates (disk : Disk) (parent : List FileName) (start : FileName) : List (List FileName) :=
  match directory? disk parent with
  | some directory =>
    (startingNames disk directory start).flatMap (withDescendants disk directory)
  | none => []

/-- The files that `spec` stands for, seen from `root`. -/
def expand (disk : Disk) (root : Path) (spec : String) : Except Error FileSet :=
  let target := root.join spec.toList
  if opensNull target.parent.names then .error .nullCharacter
  else
    let found := (candidates disk target.parent.names target.lastName).filterMap fun names =>
      let path := target.parent.along names
      if disk.isFile path.names then root.relativeTo? path.text else none
    .ok (FileSet.ofList (found.map String.ofList))

/-- The files that any of the specs stands for. -/
def expandAll (disk : Disk) (root : Path) (specs : List String) : Except Error FileSet :=
  match specs.mapM (expand disk root) with
  | .ok sets => .ok (FileSet.ofList sets.flatten)
  | .error e => .error e

def rootFiles (disk : Disk) (root : Path) : Except Error FileSet :=
  if opensNull root.names then .error .nullCharacter
  else
    let names :=
      match directory? disk root.names with
      | some directory => startingNames disk directory []
      | none => []
    let found := names.filterMap fun name =>
      if disk.isFile (root.names ++ [name]) then root.relativeTo? (root.text ++ '/' :: name)
      else none
    .ok (FileSet.ofList (found.map String.ofList))

end LintDispatch.PathSpec
