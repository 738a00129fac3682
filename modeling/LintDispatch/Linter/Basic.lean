import LintDispatch.Linter.Extension
import LintDispatch.Linter.Name
import LintDispatch.Linter.Scope

/-!
Linters: a command template with the extensions it is meant for, and the toggle that the command
line may set. A linter that was switched off stays off until it is switched on by name.
-/

namespace LintDispatch

structure Linter where
  name : String
  template : String
  extensions : List String
  autocorrectTemplate : Option String
  optionName : String
  abbreviation : String
  toggle : Option Bool
  enabled : Bool
  deriving DecidableEq, Repr, Inhabited

namespace Linter

/-- A template with its arguments, separated by single spaces. -/
def invocation (template : String) (arguments : List String) : String :=
  " ".intercalate (template :: arguments)

/-- The argument of a linter that runs without a scope. -/
def wholeProject : String := "."

/-- A linter as it is configured, not toggled yet. -/
def configured (name template : String) (extensions : List String)
    (autocorrectTemplate optionName abbreviation : Option String) : Linter where
  name := name
  template := template
  extensions := extensions
  autocorrectTemplate := autocorrectTemplate
  optionName := optionName.getD (defaultOptionName name)
  abbreviation := abbreviation.getD (defaultAbbreviation name)
  toggle := none
  enabled := true

def setToggle (l : Linter) (value : Option Bool) : Linter :=
  { l with toggle := value, enabled := l.enabled && value != some false }

def isSwitchedOn (l : Linter) : Bool :=
  l.toggle == some true

/-- Two linters agree if they have the same name, command, extensions and flags. -/
def agrees (a b : Linter) : Bool :=
  a.name == b.name && a.template == b.template && a.extensions == b.extensions
    && a.optionName == b.optionName && a.abbreviation == b.abbreviation

def applicableFiles (l : Linter) (files : List String) : List String :=
  files.filter fun path => l.extensions.contains (extension path)

/-- The command that a template makes for a scope, unless no file of the scope applies. -/
def commandFrom (l : Linter) (template : String) : Scope → Option String
  | .unscoped => some (invocation template [wholeProject])
  | .files paths =>
    match l.applicableFiles paths with
    | [] => none
    | applicable => some (invocation template applicable)

def command (l : Linter) (scope : Scope) : Option String :=
  l.commandFrom l.template scope

def autocorrectCommand (l : Linter) (scope : Scope) : Option String :=
  l.autocorrectTemplate.bind fun template => l.commandFrom template scope

@[simp] theorem setToggle_toggle (l : Linter) (value : Option Bool) :
    (l.setToggle value).toggle = value := rfl

end Linter

end LintDispatch
