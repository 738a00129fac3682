import LintDispatch.CommandLine.Command

/-!
Applying the values of parameters. Toggles are set as they are met; settings are overridden at the
end, in the order of the values. Null means that a parameter was not given, and names without a
target are passed over.
-/

namespace LintDispatch.CommandLine

/-- The overrides of settings among some values. -/
def settingOverrides (targets : Bindings Target) (values : Bindings Value) : Bindings Value :=
  values.filterMap fun (name, v) =>
    match targets.find? name with
    | some (.setting s) => if v.isNull then none else some (s.name, v)
    | _ => none

/-- Sets the toggle that a value is for. -/
def setToggle (targets : Bindings Target) (linters : List Linter) (x : String × Value) :
    List Linter :=
  match targets.find? x.1 with
  | some (.linter _ index) =>
    if x.2.isNull then linters else linters.modify index (·.setToggle (some x.2.isTrue))
  | _ => linters

/-- What overrides leave behind. -/
structure Overridden where
  settings : Settings
  linters : List Linter
  result : Except Settings.OverrideError Unit

def applyOverrides (targets : Bindings Target) (values : Bindings Value) (settings : Settings)
    (linters : List Linter) : Overridden :=
  let linters := values.foldl (setToggle targets) linters
  let (settings, result) := settings.apply (Bindings.ofList (settingOverrides targets values))
  ⟨settings, linters, result⟩

end LintDispatch.CommandLine
