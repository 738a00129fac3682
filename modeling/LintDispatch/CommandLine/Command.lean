import LintDispatch.CommandLine.Declaration
import LintDispatch.CommandLine.Registry
import LintDispatch.Linter.Basic
import LintDispatch.Text.Outdent

/-!
The command: its parameters, and what each of them sets. Every linter with a free flag has a toggle;
the settings follow, then the requests for the version and for help.
-/

namespace LintDispatch

def version : String := "0.1.4"

namespace CommandLine

/-- What a parameter is for. -/
inductive Role where
  | toggle
  | value
  | version
  | help
  deriving DecidableEq, Repr

structure Parameter where
  name : String
  role : Role
  on : List String
  off : List String
  help : String
  deriving Repr

def Parameter.strings (p : Parameter) : List String :=
  p.on ++ p.off

/-- What the value of a parameter sets. -/
inductive Target where
  | setting (s : Setting)
  | linter (optionName : String) (index : Nat)
  deriving DecidableEq, Repr

structure Command where
  toggles : List Parameter
  settings : List Parameter
  targets : Bindings Target
  deriving Repr

/-- The name of the parameter that holds the paths. -/
def pathsName : String := "paths"

def pathsPlaceholder : String := "[FILES]..."

def valuePlaceholder : String := "VALUE"

def pairDeclaration (name : String) : String :=
  "--" ++ name ++ "/--" ++ Registry.negated name

/-- The declarations of a linter's flags that are free. -/
def toggleDeclarations (r : Registry) (l : Linter) : List String :=
  let long := Linter.flagName l.optionName
  (if r.isFreeLong long then [pairDeclaration long] else [])
    ++ (if r.isFreeShort l.abbreviation then ["-" ++ l.abbreviation] else [])

def claim (r : Registry) (l : Linter) : Registry :=
  (r.claimLong (Linter.flagName l.optionName)).claimShort l.abbreviation

def toggleName (index : Nat) : String :=
  "linter_" ++ toString index

def toggleHelp (l : Linter) : String :=
  let s := "specifically run or don't run " ++ l.name
  String.ofList (Text.outdent s.toList)

/-- The toggle of a linter, if it has any flag. -/
def toggle? (r : Registry) (index : Nat) (l : Linter) :
    Except DeclarationError (Option Parameter) :=
  match toggleDeclarations r l with
  | [] => .ok none
  | declarations =>
    (declareAll declarations).map fun d =>
      some ⟨toggleName index, .toggle, d.on, d.off, toggleHelp l⟩

/-- The toggles of linters, which are counted from `index`, with what they set. -/
def togglesFrom (r : Registry) (index : Nat) :
    List Linter → Except DeclarationError (List (Parameter × Target))
  | [] => .ok []
  | l :: rest =>
    match toggle? r index l with
    | .error e => .error e
    | .ok p =>
      (togglesFrom (claim r l) (index + 1) rest).map fun more =>
        match p with
        | some p => (p, .linter l.optionName index) :: more
        | none => more

def settingParameter (o : SettingOption) : Parameter where
  name := o.setting.name
  role := if o.takesValue then .value else .toggle
  on := ("--" ++ o.long) :: (o.short.map ("-" ++ ·)).toList
  off := if o.takesValue then [] else ["--" ++ Registry.negated o.long]
  help := o.help

def settingParameters : List Parameter :=
  settingOptions.map settingParameter

def settingTargets : List (String × Target) :=
  settingOptions.map fun o => (o.setting.name, .setting o.setting)

/-- The command for some linters. -/
def build (linters : List Linter) : Except DeclarationError Command :=
  (togglesFrom .builtIn 0 linters).map fun toggles =>
    { toggles := toggles.map Prod.fst
      settings := settingParameters
      targets := toggles.map (fun t => (t.1.name, t.2)) ++ settingTargets }

def versionParameter : Parameter :=
  ⟨"version", .version, ["--version"], [], "Show the version and exit."⟩

def helpStrings : List String := ["-h", "--help"]

namespace Command

/-- The parameters that have a value. -/
def valued (c : Command) : List Parameter :=
  c.toggles ++ c.settings

/-- The request for help, under the strings that no parameter has. -/
def helpParameter? (c : Command) : Option Parameter :=
  let taken := (c.valued ++ [versionParameter]).flatMap Parameter.strings
  match helpStrings.filter fun s => !taken.contains s with
  | [] => none
  | free => some ⟨"help", .help, free, [], "Show this message and exit."⟩

def parameters (c : Command) : List Parameter :=
  c.valued ++ versionParameter :: c.helpParameter?.toList

end Command

end CommandLine

end LintDispatch
