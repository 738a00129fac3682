import LintDispatch.Bindings
import LintDispatch.Config.Field
import LintDispatch.Console.Report
import LintDispatch.Text.Printable

/-!
The settings of a run. Overrides are given by name and applied in order; the first that cannot be
applied stops the rest, and what was set before it stays set.
-/

namespace LintDispatch

structure Settings where
  changedOnly : Bool
  changedRef : String
  dryRun : Bool
  list : Bool
  autocorrect : Bool
  debug : Bool
  deriving DecidableEq, Repr, Inhabited

/-- The name of a setting. -/
inductive Setting where
  | changedOnly
  | changedRef
  | dryRun
  | list
  | autocorrect
  | debug
  deriving DecidableEq, Repr

/-- What a run does with the commands of its linters. -/
inductive Mode where
  | normal
  | dryRun
  | list
  deriving DecidableEq, Repr

namespace Setting

def all : List Setting := [.changedOnly, .changedRef, .dryRun, .list, .autocorrect, .debug]

def name : Setting → String
  | .changedOnly => "changed_only"
  | .changedRef => "changed_ref"
  | .dryRun => "dry_run"
  | .list => "list"
  | .autocorrect => "autocorrect"
  | .debug => "debug"

def ofName? (name : String) : Option Setting :=
  all.find? fun s => s.name == name

theorem ofName?_name (s : Setting) : ofName? s.name = some s := by
  cases s <;> decide

end Setting

namespace Settings

open Config

def default : Settings := ⟨false, "", false, false, false, false⟩

/-- Listing wins over a dry run. -/
def mode (s : Settings) : Mode :=
  if s.list then .list else if s.dryRun then .dryRun else .normal

def ofEntries (entries : List (Scalar × Value)) : Checked Settings :=
  Settings.mk
    <$> optional "changed_only" truth false entries
    <*> optional "changed_ref" text "" entries
    <*> optional "dry_run" truth false entries
    <*> optional "list" truth false entries
    <*> optional "autocorrect" truth false entries
    <*> optional "debug" truth false entries

def ofValue : Value → Checked Settings :=
  record "RunSettings" ofEntries

/-- Sets one setting after checking the new value. -/
def assign (s : Settings) (setting : Setting) (value : Value) : Checked Settings :=
  Checked.inside (.field setting.name) <|
    match setting with
    | .changedOnly => (fun x => { s with changedOnly := x }) <$> truth value
    | .changedRef => (fun x => { s with changedRef := x }) <$> text value
    | .dryRun => (fun x => { s with dryRun := x }) <$> truth value
    | .list => (fun x => { s with list := x }) <$> truth value
    | .autocorrect => (fun x => { s with autocorrect := x }) <$> truth value
    | .debug => (fun x => { s with debug := x }) <$> truth value

/-- Why an override was not applied. -/
inductive OverrideError where
  | unknown (name : String)
  | invalid (issues : List Issue)
  deriving DecidableEq, Repr

def OverrideError.report : OverrideError → Report
  | .unknown name => .plain "KeyError" (Text.quoted name)
  | .invalid issues => ⟨"ValidationError", "", Issue.listing issues⟩

/-- Applies overrides in order; a null leaves its setting alone. -/
def apply (s : Settings) : Bindings Value → Settings × Except OverrideError Unit
  | [] => (s, .ok ())
  | (name, value) :: rest =>
    match Setting.ofName? name with
    | none => (s, .error (.unknown name))
    | some setting =>
      if value.isNull then s.apply rest
      else
        match s.assign setting value with
        | .good s => s.apply rest
        | .faulty issues => (s, .error (.invalid issues))

end Settings

end LintDispatch
