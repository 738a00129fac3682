import LintDispatch.CommandLine.Help
import LintDispatch.CommandLine.Overrides
import LintDispatch.CommandLine.Parser
import LintDispatch.Config.File
import LintDispatch.Dispatch.Run
import LintDispatch.Selection.Engine

/-!
A session: the configuration is loaded, the command line built from it and read, its overrides
applied, the scope selected, and the linters dispatched. Requests are answered and usage errors
explained before anything is selected. Every other failure is reported and traced, and ends the
session with status one.
-/

namespace LintDispatch.Session

/-- What a session runs in: a place, a clock, someone to ask for changed files and someone to
execute commands; their failures are described by `report`. -/
structure Host (ε : Type) where
  here : Path
  clock : Clock
  source : ChangeSource ε
  runner : Runner ε
  report : ε → Report

inductive Failure (ε : Type) where
  | config (e : Config.LoadError)
  | declaration (e : CommandLine.DeclarationError)
  | override (e : Settings.OverrideError)
  | selection (e : Engine.Error ε)
  | command (e : ε)

def Failure.report {ε : Type} (describe : ε → Report) : Failure ε → Report
  | .config e => e.report
  | .declaration e => e.report
  | .override e => e.report
  | .selection (.source e) => describe e
  | .selection (.spec e) => e.report
  | .selection (.clock e) => e.report
  | .command e => describe e

structure Ended where
  disk : Disk
  transcript : Transcript
  status : Nat

def Ended.after (e : Ended) (earlier : Transcript) : Ended :=
  { e with transcript := earlier ++ e.transcript }

def failed (disk : Disk) (r : Report) : Ended :=
  ⟨disk, [.reported r, .traced r.kind], 1⟩

/-- The arguments that ask for debugging wherever they stand. -/
def debugArguments : List String := ["-d", "--debug"]

/-- The kind of every usage error. -/
def usageKind : String := "CLIError"

/-- Says what is wrong with the arguments, and how to use the program unless a trace is wanted. -/
def explain (disk : Disk) (command : CommandLine.Command) (arguments : List String)
    (e : CommandLine.UsageError) : Ended :=
  let traced := arguments.any debugArguments.contains
  ⟨disk, Console.echo (e.message ++ "\n")
    ++ if traced then [.traced usageKind] else Console.echo (CommandLine.Help.text command), 1⟩

/-- What a request is answered with, control sequences left out. -/
def answerText (command : CommandLine.Command) (request : CommandLine.Request) : String :=
  let text := match request with
    | .version => version
    | .help => CommandLine.Help.text command
  String.ofList (Text.withoutSequences text.toList) ++ "\n"

/-- Answers a request, untouched by the console. -/
def answer (disk : Disk) (command : CommandLine.Command) (request : CommandLine.Request) : Ended :=
  ⟨disk, [.said .plain (answerText command request)], 0⟩

/-- What the configuration makes of the command line. -/
structure Prepared where
  config : Config
  command : CommandLine.Command
  options : CommandLine.Options

/-- The directory of the project: the one written as `root`, or else the place itself. -/
def rootPath (here : Path) : Option String → Path
  | some root => here.join root.toList
  | none => here

def configFile (here : Path) : Option String → Config.File
  | some root => .inside here root
  | none => .ofHere here

variable {ε : Type}

def prepare (here : Path) (root : Option String) (disk : Disk) : Except (Failure ε) Prepared :=
  match Config.load disk (configFile here root) with
  | .error e => .error (.config e)
  | .ok config =>
    match CommandLine.build config.buildLinters with
    | .error e => .error (.declaration e)
    | .ok command =>
      match CommandLine.Options.ofParameters command.parameters with
      | .error e => .error (.declaration e)
      | .ok options => .ok ⟨config, command, options⟩

/-- Selects the scope and runs the linters on it. -/
def dispatch (host : Host ε) (root : Path) (config : Config) (settings : Settings)
    (linters : List Linter) (paths : List String) (disk : Disk) : Ended :=
  let engine := Engine.fresh (.fresh root config.sourcePaths config.ignoredPaths)
  let r := engine.resolve host.source settings.debug disk host.clock
    ⟨paths, settings.changedOnly, settings.changedRef⟩
  match r.result with
  | .error e => (failed r.disk ((Failure.selection e).report host.report)).after r.transcript
  | .ok scope =>
    let o := Dispatch.run host.runner settings settings.debug linters scope r.disk
    let done : Ended :=
      match o.failure with
      | some e => (failed o.disk ((Failure.command e).report host.report)).after o.transcript
      | none => ⟨o.disk, o.transcript, 0⟩
    done.after r.transcript

/-- Runs a session with the arguments, in the directory written as `root` or else in its place. -/
def run (host : Host ε) (root : Option String) (arguments : List String) (disk : Disk) : Ended :=
  match prepare host.here root disk with
  | .error e => failed disk (Failure.report host.report e)
  | .ok p =>
    match CommandLine.parse p.command p.options arguments with
    | .error e => explain disk p.command arguments e
    | .ok (.request r) => answer disk p.command r
    | .ok (.run values paths) =>
      let o := CommandLine.applyOverrides p.command.targets values p.config.settings
        p.config.buildLinters
      match o.result with
      | .error e => failed disk ((Failure.override e : Failure ε).report host.report)
      | .ok () =>
        dispatch host (rootPath host.here root) p.config o.settings o.linters paths disk

end LintDispatch.Session
