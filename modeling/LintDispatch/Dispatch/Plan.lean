import LintDispatch.Bindings
import LintDispatch.Config.Settings
import LintDispatch.Linter.Basic

/-!
The plan of a run: which linters take part and the command of each. Linters that were switched on
by name are the only ones to take part if there is any; otherwise all do that were not switched off.
-/

namespace LintDispatch.Dispatch

def participants (linters : List Linter) : List Linter :=
  match linters.filter Linter.isSwitchedOn with
  | [] => linters.filter Linter.enabled
  | chosen => chosen

/-- The command of a linter under the settings, if any file applies. -/
def commandFor (settings : Settings) (scope : Scope) (l : Linter) : Option String :=
  if settings.autocorrect then l.autocorrectCommand scope else l.command scope

def plan (settings : Settings) (linters : List Linter) (scope : Scope) : List String :=
  (participants linters).filterMap (commandFor settings scope)

def commands (linters : List Linter) (scope : Scope) : Bindings (Option String) :=
  Bindings.ofList (linters.map fun l => (l.optionName, l.command scope))

def autocorrectCommands (linters : List Linter) (scope : Scope) : Bindings (Option String) :=
  Bindings.ofList (linters.map fun l => (l.optionName, l.autocorrectCommand scope))

/-- Commands are executed, and not only shown, when there is a linter and the mode is normal. -/
def executes (settings : Settings) (linters : List Linter) : Bool :=
  !linters.isEmpty && settings.mode == .normal

theorem participants_of_none_chosen {linters : List Linter}
    (h : linters.filter Linter.isSwitchedOn = []) :
    participants linters = linters.filter Linter.enabled := by
  simp [participants, h]

theorem participants_of_chosen {linters : List Linter}
    (h : linters.filter Linter.isSwitchedOn ≠ []) :
    participants linters = linters.filter Linter.isSwitchedOn := by
  simp only [participants]

end LintDispatch.Dispatch
