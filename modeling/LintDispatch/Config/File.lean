import LintDispatch.Config.Basic
import LintDispatch.Console.Report
import LintDispatch.Disk.Obstacle
import LintDispatch.Disk.Tree
import LintDispatch.Yaml.Text

/-!
The configuration file of a project. It is a YAML mapping of which three keys count; where the file,
a key or its value is missing, the default holds.
-/

namespace LintDispatch.Config

def fileName : FileName := ".l.yml".toList

def knownKeys : List String := ["source_file_paths", "ignored_file_paths", "linters"]

/-- A file as it is written and where it leads. -/
structure File where
  name : String
  here : Path

/-- The configuration file in the directory written as `root`, seen from `here`. -/
def File.inside (here : Path) (root : String) : File :=
  let text := if root.isEmpty then Path.dot else root.toList
  ⟨String.ofList (Path.tidyChild text fileName), here⟩

/-- The configuration file in the directory `here`. -/
def File.ofHere (here : Path) : File :=
  .inside here (String.ofList here.text)

def File.description (f : File) : String :=
  "YAML configuration at " ++ f.name

def builtInName : String := "defaults"

def builtInDescription : String := "Built-in defaults"

/-- The defaults of the keys that count. -/
def defaultValue : Value :=
  .map [(.text "source_file_paths", .list (defaultSourcePaths.map Value.text)),
    (.text "ignored_file_paths", .list []), (.text "linters", .list [])]

inductive LoadError where
  | obstacle (file : File) (o : Disk.Obstacle)
  | document (file : File) (e : Yaml.Error)
  | notMapping (file : File)
  | invalid (file : File) (issues : List Issue)

/-- The entries that count, in a fixed order; null stands for absence. -/
def knownEntries (entries : List (Scalar × Value)) : List (Scalar × Value) :=
  knownKeys.filterMap fun key =>
    match Value.lookup? key entries with
    | some v => if v.isNull then none else some (.text key, v)
    | none => none

/-- The entries of a file that count; there are none if there is no file, but a name too long to
look for is an error. -/
def readWithin (depth : Yaml.Depth) (disk : Disk) (f : File) :
    Except LoadError (List (Scalar × Value)) :=
  match disk.arriveAt f.here f.name.toList with
  | .error .nameTooLong => .error (.obstacle f .nameTooLong)
  | .error _ => .ok []
  | .ok ⟨_, _, .file bytes⟩ =>
    match Yaml.loadWithin depth bytes with
    | .error e => .error (.document f e)
    | .ok (.map entries) => .ok (knownEntries entries)
    | .ok v => if v.isNull then .ok [] else .error (.notMapping f)
  | .ok _ => .error (.obstacle f .isDirectory)

/-- Loads a file on a stack that goes as far as `depth`. -/
def loadWithin (depth : Yaml.Depth) (disk : Disk) (f : File) : Except LoadError Config :=
  match readWithin depth disk f with
  | .error e => .error e
  | .ok entries =>
    match ofEntries entries with
    | .good c => .ok c
    | .faulty issues => .error (.invalid f issues)

def load (disk : Disk) (f : File) : Except LoadError Config :=
  loadWithin .usual disk f

theorem lookup?_knownEntries {key : String} (h : key ∉ knownKeys)
    (entries : List (Scalar × Value)) : Value.lookup? key (knownEntries entries) = none := by
  simp only [Value.lookup?, Option.map_eq_none_iff, List.find?_eq_none, knownEntries,
    List.mem_filterMap]
  rintro e ⟨known, hknown, he⟩
  have hne : known ≠ key := fun heq => h (heq ▸ hknown)
  split at he
  · split at he
    · cases he
    · cases he
      simpa [Scalar.sameKey, Scalar.whole?] using hne
  · cases he

/-- A file has no say in the settings. -/
theorem settings_of_load {disk : Disk} {f : File} {c : Config} (h : load disk f = .ok c) :
    c.settings = .default := by
  obtain ⟨entries, he, hc⟩ : ∃ entries, Value.lookup? "settings" entries = none ∧
      ofEntries entries = .good c := by
    simp only [load, loadWithin] at h
    split at h
    · cases h
    · rename_i entries hr
      have hnone : Value.lookup? "settings" entries = none := by
        simp only [readWithin] at hr
        repeat' split at hr
        all_goals cases hr
        all_goals first | rfl | exact lookup?_knownEntries (by decide) _
      split at h
      · cases h
        exact ⟨entries, hnone, ‹_›⟩
      · cases h
  simp only [ofEntries, Checked.seq_eq_good, Checked.map_eq_good, optional, he] at hc
  obtain ⟨_, s, ⟨_, _, ⟨_, _, ⟨_, -, rfl⟩, -, rfl⟩, -, rfl⟩, hs, rfl⟩ := hc
  cases hs
  rfl

namespace LoadError

def report : LoadError → Report
  | .obstacle f o => o.report f.name
  | .document f .malformed =>
    ⟨"ConfigError", "Invalid YAML in " ++ f.name ++ ": ", Yaml.Error.malformed.message⟩
  | .document _ .encoding => ⟨Yaml.Error.encoding.kind, "", Yaml.Error.encoding.message⟩
  | .document _ e => .plain e.kind e.message
  | .notMapping f => .plain "ConfigError" ("Configuration at " ++ f.name ++ " must be a mapping")
  | .invalid f issues =>
    ⟨"ConfigError", "Invalid configuration in " ++ f.description ++ ": ",
      Issue.listing issues⟩

def issues : LoadError → List Issue
  | .invalid _ issues => issues
  | _ => []

end LoadError

end LintDispatch.Config
