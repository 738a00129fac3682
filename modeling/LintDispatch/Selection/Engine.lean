import LintDispatch.Console.Transcript
import LintDispatch.Linter.Scope
import LintDispatch.Selection.Change
import LintDispatch.Selection.Filters

/-!
Selecting the scope of a run. Without paths, and when not only changed files are wanted, there is no
scope. Otherwise the files found are those that the paths stand for, or those that the reported
changes stand for; of them the scope keeps what is on the whitelist and not on the blacklist.
-/

namespace LintDispatch

structure Engine where
  filters : Filters
  lastChange : Option Change
  deriving Repr

namespace Engine

/-- Why no scope was selected. -/
inductive Error (ε : Type) where
  | source (e : ε)
  | spec (e : PathSpec.Error)
  | clock (e : Seconds.Error)
  deriving Repr

/-- What is wanted of a run: the paths given and whether only changes against a reference count. -/
structure Request where
  paths : List String
  changedOnly : Bool
  reference : String
  deriving DecidableEq, Repr

structure Resolution (ε : Type) where
  engine : Engine
  disk : Disk
  clock : Clock
  transcript : Transcript
  result : Except (Error ε) Scope

/-- The paths to look at where none is given. -/
def wholeRoot : String := "."

def changedLookup : String := "Lookup changed source files"

def sourceLookup : String := "Lookup source files"

def fresh (filters : Filters) : Engine :=
  ⟨filters, none⟩

variable {ε : Type}

def expand (engine : Engine) (disk : Disk) (specs : List String) : Except (Error ε) FileSet :=
  match PathSpec.expandAll disk engine.filters.root specs with
  | .ok files => .ok files
  | .error e => .error (.spec e)

/-- What a lookup found, before the filters. -/
structure Found (ε : Type) where
  engine : Engine
  disk : Disk
  clock : Clock
  transcript : Transcript
  result : Except (Error ε) FileSet

def findSources (engine : Engine) (debugging : Bool) (disk : Disk) (clock : Clock)
    (paths : List String) : Found ε :=
  let timed := Console.timed debugging clock sourceLookup Error.clock
    ([], engine.expand disk paths)
  ⟨engine, disk, timed.clock, timed.transcript, timed.result⟩

/-- Asks the source, and expands what it reports on the disk that it leaves. -/
def lookupChanges (engine : Engine) (source : ChangeSource ε) (disk : Disk) (reference : String)
    (scopes : List String) : Disk × Except (Error ε) (Change × FileSet) :=
  match source.changed disk reference scopes with
  | (disk, .error e) => (disk, .error (.source e))
  | (disk, .ok change) =>
    (disk, (engine.expand disk change.files).map fun files => (change, files))

def findChanges (engine : Engine) (source : ChangeSource ε) (debugging : Bool) (disk : Disk)
    (clock : Clock) (paths : List String) (reference : String) : Found ε :=
  let (disk, looked) := engine.lookupChanges source disk reference paths
  let timed := Console.timed debugging clock changedLookup Error.clock
    ([.queried reference paths], looked)
  match timed.result with
  | .error e => ⟨engine, disk, timed.clock, timed.transcript, .error e⟩
  | .ok (change, files) =>
    ⟨{ engine with lastChange := some change }, disk, timed.clock,
      timed.transcript ++ Console.debug debugging ("  \x60" ++ change.command ++ "\x60"),
      .ok files⟩

/-- Keeps of the files found what the filters let through. -/
def filter (found : Found ε) : Resolution ε :=
  match found.result with
  | .error e => ⟨found.engine, found.disk, found.clock, found.transcript, .error e⟩
  | .ok files =>
    let (filters, allowed) := found.engine.filters.whitelist found.disk
    match allowed with
    | .error e =>
      ⟨{ found.engine with filters := filters }, found.disk, found.clock, found.transcript,
        .error (.spec e)⟩
    | .ok allowed =>
      let (filters, ignored) := filters.blacklist found.disk
      ⟨{ found.engine with filters := filters }, found.disk, found.clock, found.transcript,
        match ignored with
        | .error e => .error (.spec e)
        | .ok ignored => .ok (.files ((files.inter allowed).diff ignored))⟩

def find (engine : Engine) (source : ChangeSource ε) (debugging : Bool) (disk : Disk)
    (clock : Clock) (request : Request) : Found ε :=
  let paths := if request.paths.isEmpty then [wholeRoot] else request.paths
  if request.changedOnly then
    engine.findChanges source debugging disk clock paths request.reference
  else engine.findSources debugging disk clock paths

def resolve (engine : Engine) (source : ChangeSource ε) (debugging : Bool) (disk : Disk)
    (clock : Clock) (request : Request) : Resolution ε :=
  if request.paths.isEmpty && !request.changedOnly then ⟨engine, disk, clock, [], .ok .unscoped⟩
  else filter (engine.find source debugging disk clock request)

end Engine

end LintDispatch
