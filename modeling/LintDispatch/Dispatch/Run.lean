import LintDispatch.Console.Transcript
import LintDispatch.Dispatch.Plan
import LintDispatch.Disk.Tree

/-!
Running the plan. Each participant has a header; then its command is executed, shown, or neither,
as the mode says. In list mode only the files of the scope are shown. A runner that fails stops the
run at that command.
-/

namespace LintDispatch

/-- What executing one command did: the disk it left, what it printed, and whether running it
failed. The exit status of a command is no failure. -/
structure Execution (ε : Type) where
  disk : Disk
  output : String
  failure : Option ε

structure Runner (ε : Type) where
  execute : Disk → String → Execution ε

namespace Dispatch

structure Outcome (ε : Type) where
  disk : Disk
  transcript : Transcript
  failure : Option ε

variable {ε : Type}

def Outcome.after (o : Outcome ε) (earlier : Transcript) : Outcome ε :=
  { o with transcript := earlier ++ o.transcript }

/-- What is said before the command of a linter; `first` says that no linter came before. -/
def header (first : Bool) (l : Linter) : Transcript :=
  (if first then [] else Console.echo "\n") ++ Console.echo ("Running " ++ l.name)

/-- What is said about a command before it is executed. -/
def announce (settings : Settings) (debugging : Bool) (command : String) : Transcript :=
  Console.debug debugging ("  " ++ command)
    ++ if settings.mode = .dryRun then Console.echo command else []

def runEach (runner : Runner ε) (settings : Settings) (debugging : Bool) (scope : Scope) :
    Bool → List Linter → Disk → Outcome ε
  | _, [], disk => ⟨disk, [], none⟩
  | first, l :: rest, disk =>
    match commandFor settings scope l with
    | none => (runEach runner settings debugging scope false rest disk).after (header first l)
    | some command =>
      let said := header first l ++ announce settings debugging command
      if settings.mode = .normal then
        let e := runner.execute disk command
        let soFar := said ++ [.ran command e.output]
        match e.failure with
        | some failure => ⟨e.disk, soFar, some failure⟩
        | none => (runEach runner settings debugging scope false rest e.disk).after soFar
      else (runEach runner settings debugging scope false rest disk).after said

/-- What debugging shows of the scope. -/
def describeScope (debugging : Bool) (scope : Scope) : Transcript :=
  Console.debug debugging (toString scope.paths.length ++ " specified source files:")
    ++ scope.paths.flatMap fun path => Console.debug debugging ("  " ++ path)

def run (runner : Runner ε) (settings : Settings) (debugging : Bool) (linters : List Linter)
    (scope : Scope) (disk : Disk) : Outcome ε :=
  let o : Outcome ε :=
    if settings.mode = .list then ⟨disk, Console.echo ("\n".intercalate scope.paths), none⟩
    else runEach runner settings debugging scope true (participants linters) disk
  o.after (describeScope debugging scope)

end Dispatch

end LintDispatch
