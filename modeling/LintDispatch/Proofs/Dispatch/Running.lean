import LintDispatch.Dispatch.Run

/-! A run in normal mode executes its plan. As long as running a command does not fail, the commands
executed are those of the participants, in order, whatever they do to the disk. -/

namespace LintDispatch

namespace Linter

/-- The template that makes the command of a linter; one that cannot correct has none for that. -/
def templateFor (autocorrect : Bool) (l : Linter) : Option String :=
  if autocorrect then l.autocorrectTemplate else some l.template

theorem commandFrom_unscoped (l : Linter) (template : String) :
    l.commandFrom template .unscoped = some (template ++ " .") := by
  have hdot : " ." = " " ++ "." := rfl
  simp [commandFrom, invocation, wholeProject, String.intercalate_cons_of_ne_nil, hdot,
    String.append_assoc]

theorem commandFrom_files (l : Linter) (template : String) (files : List String) :
    l.commandFrom template (.files files) =
      if l.applicableFiles files = [] then none
      else some (template ++ " " ++ " ".intercalate (l.applicableFiles files)) := by
  simp only [commandFrom]
  cases h : l.applicableFiles files with
  | nil => rfl
  | cons file rest => simp [invocation, String.intercalate_cons_of_ne_nil]

end Linter

/-- Running a command never fails, whatever status it ends with. -/
def Runner.Reliable {ε : Type} (runner : Runner ε) : Prop :=
  ∀ disk command, (runner.execute disk command).failure = none

namespace Dispatch

variable {ε : Type} {runner : Runner ε} {settings : Settings}

theorem commandFor_eq (settings : Settings) (scope : Scope) (l : Linter) :
    commandFor settings scope l =
      (l.templateFor settings.autocorrect).bind fun template => l.commandFrom template scope := by
  simp only [commandFor, Linter.templateFor, Linter.autocorrectCommand, Linter.command]
  split <;> rfl

theorem commands_header (first : Bool) (l : Linter) : Transcript.commands (header first l) = [] := by
  cases first <;> simp [header]

theorem commands_announce (debugging : Bool) (command : String) :
    Transcript.commands (announce settings debugging command) = [] := by
  simp only [announce, Transcript.commands_append, Console.commands_debug, List.nil_append]
  split
  · exact Console.commands_echo command
  · rfl

theorem commands_describeScope (debugging : Bool) (scope : Scope) :
    Transcript.commands (describeScope debugging scope) = [] := by
  have hall : ∀ paths : List String, Transcript.commands
      (paths.flatMap fun path => Console.debug debugging ("  " ++ path)) = [] := by
    intro paths
    induction paths with
    | nil => rfl
    | cons path paths ih => simp [List.flatMap_cons, ih]
  simp [describeScope, hall]

theorem runEach_normal (hr : runner.Reliable) (hm : settings.mode = .normal) (debugging : Bool)
    (scope : Scope) (first : Bool) (linters : List Linter) (disk : Disk) :
    (runEach runner settings debugging scope first linters disk).failure = none ∧
      Transcript.commands (runEach runner settings debugging scope first linters disk).transcript =
        linters.filterMap (commandFor settings scope) := by
  -- Each command starts from the disk that the one before it left.
  induction linters generalizing first disk with
  | nil => exact ⟨rfl, rfl⟩
  | cons l rest ih =>
    simp only [runEach]
    cases hc : commandFor settings scope l with
    | none =>
      obtain ⟨hf, ht⟩ := ih false disk
      simp [Outcome.after, hf, ht, hc, commands_header]
    | some command =>
      obtain ⟨hf, ht⟩ := ih false (runner.execute disk command).disk
      simp only [hm, hr disk command, if_true, Outcome.after, Transcript.commands_append, ht,
        commands_header, commands_announce, List.filterMap_cons, hc]
      exact ⟨hf, rfl⟩

theorem run_normal (hr : runner.Reliable) (hm : settings.mode = .normal) (debugging : Bool)
    (linters : List Linter) (scope : Scope) (disk : Disk) :
    (run runner settings debugging linters scope disk).failure = none ∧
      Transcript.commands (run runner settings debugging linters scope disk).transcript =
        plan settings linters scope := by
  obtain ⟨hf, ht⟩ := runEach_normal hr hm debugging scope true (participants linters) disk
  simp [run, hm, Outcome.after, hf, ht, commands_describeScope, plan]

end Dispatch

end LintDispatch
