import LintDispatch.Console.Report
import LintDispatch.Disk.Obstacle
import LintDispatch.Dispatch.Run
import LintDispatch.Selection.Change
import LintDispatch.Shell.Run
import LintDispatch.Text.Blank
import LintDispatch.Text.Lines
import LintDispatch.Text.Printable

/-!
Commands as processes of their own. A command runs in a shell, in a directory and with an
environment that may be chosen; what it writes is either kept, as text or as bytes, or goes where
the output of the whole run goes. A status other than zero counts as failure only where it is
checked. The linters run unchecked, and queries for changed files run checked with their output
kept.
-/

namespace LintDispatch

namespace Child

structure Options where
  directory : Option String
  environment : Option (List (String × String))
  checked : Bool
  captured : Bool
  asText : Bool
  deriving DecidableEq, Repr

namespace Options

def standard : Options := ⟨none, none, true, false, true⟩

/-- How linter commands run. -/
def linter : Options := { standard with checked := false }

/-- How queries in the directory written as `root` run. -/
def queryIn (root : String) : Options :=
  { standard with directory := some root, captured := true }

end Options

/-- What is kept of a stream. -/
inductive Kept where
  | nothing
  | text (text : String)
  | bytes (bytes : List UInt8)
  deriving DecidableEq, Repr

def Kept.text? : Kept → Option String
  | .text s => some s
  | _ => none

structure Finished where
  status : Int
  output : Kept
  errors : Kept
  deriving DecidableEq, Repr

inductive Error where
  | illegalName
  | nullCharacter
  | obstacle (o : Disk.Obstacle) (directory : String)
  | undecodable
  | failed (command : String) (process : Finished)
  deriving DecidableEq, Repr

namespace Error

/-- What a failed command wrote about it, without the blanks around it. -/
def complaint (process : Finished) : String :=
  let text := Text.trim ((process.errors.text?.getD "").toList)
  if text.isEmpty then "<none>" else String.ofList text

def report : Error → Report
  | .illegalName => .plain "ValueError" "illegal environment variable name"
  | .nullCharacter => .plain "ValueError" "embedded null byte"
  | .obstacle o directory => o.report directory
  | .undecodable => ⟨"UnicodeDecodeError", "", "invalid bytes in what a command wrote"⟩
  | .failed command process =>
    .plain "SubprocessExecutionError"
      ("Command \x60" ++ command ++ "\x60 exited with status " ++ toString process.status
        ++ ". stderr: " ++ complaint process)

end Error

def hasNull (s : String) : Bool :=
  s.toList.any fun c => c.toNat = 0

/-- The number of a status; a process killed by a signal has the negated number of it. -/
def statusOf : Shell.Ending → Int
  | .exited status => status
  | .killed signal => -(signal : Int)

/-- Every way to end a line becomes a line feed. -/
def unifyLineEnds : List Char → List Char
  | '\r' :: '\n' :: rest => '\n' :: unifyLineEnds rest
  | '\r' :: rest => '\n' :: unifyLineEnds rest
  | c :: rest => c :: unifyLineEnds rest
  | [] => []

/-- What is kept of the bytes of a stream. -/
def keep (o : Options) (bytes : List UInt8) : Except Error Kept :=
  if !o.captured then .ok .nothing
  else if !o.asText then .ok (.bytes bytes)
  else
    match Text.decodeUtf8? bytes with
    | some s => .ok (.text (String.ofList (unifyLineEnds s)))
    | none => .error .undecodable

/-- What becomes of a command when its shell has ended. -/
def finish (o : Options) (command : String) (c : Shell.Completed) : Except Error Finished := do
  let output ← keep o c.output
  let errors ← keep o c.errors
  let process : Finished := ⟨statusOf c.ending, output, errors⟩
  if o.checked && process.status != 0 then .error (.failed command process) else .ok process

/-- What reaches the output of the whole run. -/
def passedOn (o : Options) (c : Shell.Completed) : String :=
  if o.captured then "" else String.ofList (Text.decodeLossy c.output)

/-- The environment of the whole run. -/
def ownEnvironment : List (String × String) :=
  [("HOME", "/root"), ("PATH", Shell.Program.defaultPath), ("LANG", "C.UTF-8")]

/-- Starts a shell for a command and lets it run. -/
def launch (here : Path) (o : Options) (disk : Disk) (command : String) :
    Except Error Shell.Completed :=
  let environment := o.environment.getD ownEnvironment
  let directory := String.ofList (Path.tidy (o.directory.getD ".").toList)
  if environment.any fun v => v.1.toList.contains '=' then .error .illegalName
  else if hasNull command || hasNull directory
      || environment.any fun v => hasNull v.1 || hasNull v.2 then .error .nullCharacter
  else
    match disk.arriveAt here directory.toList with
    | .ok ⟨_, place, .directory⟩ =>
      .ok (Shell.execute disk ((Path.top false).along place) environment command)
    | .ok _ => .error (.obstacle .notDirectory directory)
    | .error o => .error (.obstacle o directory)

/-- Runs a command: the disk it leaves, what it wrote to the output of the whole run, and the
process. -/
def run (here : Path) (o : Options) (disk : Disk) (command : String) :
    Disk × String × Except Error Finished :=
  match launch here o disk command with
  | .error e => (disk, "", .error e)
  | .ok c => (c.disk, passedOn o c, finish o command c)

end Child

/-- Runs linter commands as processes in the directory `here`. -/
def Runner.ofChild (here : Path) : Runner Child.Error where
  execute disk command :=
    let (disk, output, result) := Child.run here .linter disk command
    match result with
    | .ok _ => ⟨disk, output, none⟩
    | .error e => ⟨disk, output, some e⟩

/-- The lines that a command writes in the directory `root`; `launch` runs it. -/
def Child.linesOf (root : String)
    (launch : Child.Options → Disk → String → Except Child.Error Shell.Completed)
    (disk : Disk) (command : String) : Disk × Except Child.Error (List String) :=
  let o := Child.Options.queryIn root
  match launch o disk command with
  | .error e => (disk, .error e)
  | .ok c =>
    (c.disk, (Child.finish o command c).map fun process =>
      (Text.lines (process.output.text?.getD "").toList).map String.ofList)

/-- Asks version control in the directory `root`; `launch` runs the query. -/
def ChangeSource.ofLaunch (root : String)
    (launch : Child.Options → Disk → String → Except Child.Error Shell.Completed) :
    ChangeSource Child.Error :=
  .git (Child.linesOf root launch)

/-- Asks version control in the directory `root`, seen from `here`, by a process. -/
def ChangeSource.ofChild (here : Path) (root : String) : ChangeSource Child.Error :=
  .ofLaunch root (Child.launch here)

end LintDispatch
