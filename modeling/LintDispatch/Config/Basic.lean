import LintDispatch.Config.Descriptor
import LintDispatch.Config.Settings

/-!
The configuration of a project: where sources lie, what to leave out, the linters, and the settings
that a run starts from.
-/

namespace LintDispatch

structure Config where
  sourcePaths : List String
  ignoredPaths : List String
  linters : List Descriptor
  settings : Settings
  deriving DecidableEq, Repr, Inhabited

namespace Config

def recordName : String := "Config"

def defaultSourcePaths : List String := ["./"]

def default : Config := ⟨defaultSourcePaths, [], [], .default⟩

/-- A list of path specs, where a single text stands for a list of one. -/
def pathList (v : Value) : Checked (List String) :=
  match v with
  | .scalar (.text _) => listOf text (.list [v])
  | .scalar (.illFormed _) => listOf text (.list [v])
  | v => listOf text v

def ofEntries (entries : List (Scalar × Value)) : Checked Config :=
  Config.mk
    <$> optional "source_file_paths" pathList defaultSourcePaths entries
    <*> optional "ignored_file_paths" pathList [] entries
    <*> optional "linters" (listOf Descriptor.ofValue) [] entries
    <*> optional "settings" Settings.ofValue .default entries

def ofValue : Value → Checked Config :=
  record recordName ofEntries

/-- Sets one field after checking the new value. -/
def change (c : Config) (field : String) (value : Value) : Checked Config :=
  Checked.inside (.field field) <|
    match field with
    | "source_file_paths" => (fun x => { c with sourcePaths := x }) <$> pathList value
    | "ignored_file_paths" => (fun x => { c with ignoredPaths := x }) <$> pathList value
    | "linters" => (fun x => { c with linters := x }) <$> listOf Descriptor.ofValue value
    | "settings" => (fun x => { c with settings := x }) <$> Settings.ofValue value
    | _ => .fail (.noSuchField field)

def assign : Config → String → Value → Except Computed (Checked Config) :=
  assigned recordName change

def buildLinters (c : Config) : List Linter :=
  c.linters.map Descriptor.toLinter

end Config

end LintDispatch
