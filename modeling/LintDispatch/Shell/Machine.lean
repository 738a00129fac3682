import LintDispatch.Disk.Obstacle
import LintDispatch.Shell.Arithmetic
import LintDispatch.Shell.Reader

/-!
The state that a script works on: the disk, the place it is at, its variables and functions, its
streams and what was written to them, and the status of the last command. A command that leaves
others behind, such as the end of the shell or of a loop, is kept in the state until it has been
dealt with.
-/

namespace LintDispatch.Shell

/-- What keeps the commands that follow from running: the end of the shell, by its own will or by
a fault, or a way out of loops or out of a function. -/
inductive Departure where
  | exited (status : Nat)
  | failed
  | killed (signal : Nat)
  | broken (loops : Nat)
  | continued (loops : Nat)
  | returned
  deriving DecidableEq, Repr

/-- What a stream is connected to: something that takes what is written, or a source to read. -/
inductive Channel where
  | output
  | errors
  | nowhere
  | pipe (index : Nat)
  | file (place : List FileName)
  | directory
  | source (index : Nat)
  deriving DecidableEq, Repr

abbrev Streams := List (Nat × Channel)

namespace Streams

/-- The first source is the input, and what is written goes to the output or the errors. -/
def standard : Streams := [(0, .source 0), (1, .output), (2, .errors)]

def channel? (streams : Streams) (stream : Nat) : Option Channel :=
  (streams.find? fun s => s.1 == stream).map Prod.snd

def close (streams : Streams) (stream : Nat) : Streams :=
  streams.filter fun s => s.1 != stream

def lead (streams : Streams) (stream : Nat) (channel : Channel) : Streams :=
  (stream, channel) :: streams.close stream

end Streams

structure Input where
  text : Octets
  fromFile : Bool
  deriving Repr

/-- Where the next option is among the arguments: the number of an argument, and what is left to
read of the one before it, from a character on. -/
structure OptionPlace where
  argument : Nat
  character : Option Nat
  deriving Repr

def OptionPlace.start : OptionPlace := ⟨1, none⟩

structure Machine where
  disk : Disk
  here : Path
  /-- The name of the shell and its arguments. -/
  name : Octets
  arguments : List Octets
  optionPlace : OptionPlace
  bindings : List (Octets × Octets)
  exported : List Octets
  fixed : List Octets
  functions : List (Octets × Command)
  /-- Texts that names stand for where a command starts. -/
  aliases : List (Octets × Octets)
  /-- What the names that are local to functions meant before, the innermost function first. -/
  scopes : List (List (Octets × Option Octets))
  options : List Char
  /-- Commands for signals, and for the end of the shell under the number zero. -/
  traps : List (Nat × Octets)
  /-- The commands for signals of the first shell, where this one branched off from it. -/
  firstTraps : Option (List (Nat × Octets))
  /-- Signals that came and whose commands have still to run. -/
  pending : List Nat
  /-- The signal that has ended the first shell, where this one branched off from it. -/
  doom : Option Nat
  /-- The status from before the command of a signal. -/
  held : Option Nat
  /-- The statuses of the commands in the background. -/
  jobs : List Nat
  /-- The programs that were looked for and found. -/
  known : List Octets
  /-- The permissions that new files do not get. -/
  mask : Nat
  loops : Nat
  /-- The status of what runs is asked for, so that it may well fail. -/
  tested : Bool
  line : Nat
  /-- The command in whose name faults are reported. -/
  speaker : Option Octets
  status : Nat
  /-- The status of the last substituted command of the words at hand. -/
  substituted : Nat
  departure : Option Departure
  streams : Streams
  sources : List Input
  /-- Something was to be written to a closed stream. -/
  unsaid : Bool
  output : Octets
  errors : Octets
  pipes : List Octets

inductive Fault where
  | misread (cause : ReadError)
  | arithmetic (cause : Arithmetic.Error) (expression : Octets)
  | badSubstitution
  | parameter (name message : Octets)
  | readOnly (name : Octets)
  | notFound (command : Octets)
  | denied (command : Octets)
  | noSource (target reason : Octets)
  | noTarget (target reason : Octets)
  | badStream (name : Octets)
  | problem (text : Octets)

def ReadError.message : ReadError → String
  | .openQuote => "Unterminated quoted string"
  | .openBrace => "Missing '\x7d'"
  | .openArithmetic => "Missing '))'"
  | .openBackquote => "EOF in backquote substitution"
  | .unexpected found none => found ++ " unexpected"
  | .unexpected found (some expected) => found ++ " unexpected (expecting " ++ expected ++ ")"
  | .badFunctionName => "Bad function name"
  | .badLoopName => "Bad for loop variable"
  | .tooDeep => "too deeply nested"

def Arithmetic.Error.message (expression : Octets) : Arithmetic.Error → Octets
  | .illegalNumber text => "Illegal number: ".toList ++ text
  | e =>
    let problem := match e with
      | .divisionByZero => "division by zero"
      | .expectingPrimary => "expecting primary"
      | .expectingEnd => "expecting EOF"
      | .expectingColon => "expecting ':'"
      | _ => "expecting ')'"
    ("arithmetic expression: " ++ problem ++ ": \"").toList ++ expression ++ ['"']

def Fault.message : Fault → Octets
  | .misread cause => ("Syntax error: " ++ cause.message).toList
  | .arithmetic cause expression => cause.message expression
  | .badSubstitution => "Bad substitution".toList
  | .parameter name message => name ++ ": ".toList ++ message
  | .readOnly name => name ++ ": is read only".toList
  | .notFound command => command ++ ": not found".toList
  | .denied command => command ++ ": Permission denied".toList
  | .noSource target reason => "cannot open ".toList ++ target ++ ": ".toList ++ reason
  | .noTarget target reason => "cannot create ".toList ++ target ++ ": ".toList ++ reason
  | .badStream name => name ++ ": Bad file descriptor".toList
  | .problem text => text

namespace Machine

/-- Nothing further is to run for now. -/
def departed (m : Machine) : Bool :=
  m.departure.isSome

def inputAt (m : Machine) (stream : Nat) : Input :=
  match m.streams.channel? stream with
  | some (.source index) => m.sources.getD index ⟨[], false⟩
  | _ => ⟨[], false⟩

def input (m : Machine) : Input :=
  m.inputAt 0

def leaveInput (m : Machine) (rest : Octets) : Machine :=
  match m.streams.channel? 0 with
  | some (.source index) => { m with sources := m.sources.modify index ({ · with text := rest }) }
  | _ => m

/-- Connects a stream to something new to read. -/
def supply (m : Machine) (stream : Nat) (input : Input) : Machine :=
  { m with sources := m.sources ++ [input]
           streams := m.streams.lead stream (.source m.sources.length) }

def write (m : Machine) (channel : Channel) (text : Octets) : Machine :=
  match channel with
  | .output => { m with output := m.output ++ text }
  | .errors => { m with errors := m.errors ++ text }
  | .nowhere => m
  | .directory => m
  | .source _ => m
  | .pipe index => { m with pipes := m.pipes.modify index (· ++ text) }
  | .file place =>
    match m.disk.entryAt? place with
    | some (.file bytes) =>
      { m with disk := m.disk.put place (.file (bytes ++ Octets.toBytes text)) }
    | _ => m

def say (m : Machine) (stream : Nat) (text : Octets) : Machine :=
  match m.streams.channel? stream with
  | some channel => m.write channel text
  | none => { m with unsaid := m.unsaid || !text.isEmpty }

def quit (m : Machine) (status : Nat) : Machine :=
  { m with departure := some (.exited status) }

/-- Takes other arguments, whose options are still to be looked at. -/
def takeArguments (m : Machine) (arguments : List Octets) : Machine :=
  { m with arguments, optionPlace := .start }

def decimal (n : Nat) : Octets :=
  (toString n).toList

/-- Writes about a fault and sets the status. -/
def complain (m : Machine) (fault : Fault) (status : Nat) : Machine :=
  let place := m.name ++ ": ".toList ++ decimal m.line ++ ": ".toList
  let speaker := match m.speaker with
    | some name => name ++ ": ".toList
    | none => []
  { m.say 2 (place ++ speaker ++ fault.message ++ ['\n']) with status := status }

/-- As `complain`, in the name of the command `name`. -/
def complainFor (m : Machine) (name : String) (problem : Octets) (status : Nat) : Machine :=
  { ({ m with speaker := some name.toList } : Machine).complain (.problem problem) status with
    speaker := m.speaker }

def abort (m : Machine) (fault : Fault) : Machine :=
  { m.complain fault 2 with departure := some .failed }

def abortFor (m : Machine) (name : String) (problem : Octets) : Machine :=
  { m.complainFor name problem 2 with departure := some .failed }

def value? (m : Machine) (name : Octets) : Option Octets :=
  m.bindings.lookup name

/-- Gives a name a value, whether or not it is fixed. -/
def bind (m : Machine) (name value : Octets) : Machine :=
  let m := { m with bindings := (name, value) :: m.bindings.filter fun v => v.1 != name }
  let m := if name = "PATH".toList then { m with known := [] } else m
  if m.options.contains 'a' && !m.exported.contains name then
    { m with exported := name :: m.exported }
  else m

def unbind (m : Machine) (name : Octets) : Machine :=
  { m with bindings := m.bindings.filter fun v => v.1 != name
           exported := m.exported.filter (· != name) }

/-- Options are looked for from the argument with this number on. -/
def placeOption (m : Machine) (value : Octets) : Machine :=
  match Octets.natural? value with
  | some n => { m with optionPlace := ⟨max n 1, none⟩ }
  | none => m.abort (.arithmetic (.illegalNumber value) value)

/-- Gives a name a value; a fixed name is a fault that ends the shell. -/
def assign (m : Machine) (name value : Octets) : Machine :=
  if m.departed then m
  else if m.fixed.contains name then m.abort (.readOnly name)
  else
    let m := m.bind name value
    if name = "OPTIND".toList then m.placeOption value else m

def textNamed (m : Machine) (name : String) : Octets :=
  (m.value? name.toList).getD []

/-- The variables that a command gets to see. -/
def environment (m : Machine) : List (Octets × Octets) :=
  m.bindings.filter fun v => m.exported.contains v.1

/-- Where a name written in the script leads. -/
def arrive (m : Machine) (name : Octets) : Except Disk.Obstacle Disk.Arrival :=
  match Octets.toText? name with
  | none => .error .missing
  | some [] => .error .missing
  | some text => m.disk.arriveAt m.here text

/-- Where a name leads, a link in its last place not followed. -/
def arriveAtLink (m : Machine) (name : Octets) : Except Disk.Obstacle (List FileName × Entry) :=
  match Octets.toText? name with
  | none => .error .missing
  | some text =>
    let parts := Path.toFollow m.here text
    let last := parts.getLast?.getD []
    if last = [] || last = Path.dot || last = Path.dotDot then
      (m.arrive name).map fun a => (a.place, a.entry)
    else
      match m.disk.arrive parts.dropLast with
      | .ok ⟨_, place, .directory⟩ =>
        match m.disk.entryAt? (place ++ [last]) with
        | some entry => .ok (place ++ [last], entry)
        | none => .error .missing
      | .ok _ => .error .notDirectory
      | .error o => .error o

/-- Puts something on the disk, unless it is to be gone. -/
def put (m : Machine) (place : List FileName) (entry : Entry) : Machine :=
  if place = System.nullPlace then m else { m with disk := m.disk.put place entry }

def content (m : Machine) (name : Octets) : Except Disk.Obstacle Octets :=
  if name = "/dev/stdin".toList then .ok m.input.text
  else match m.arrive name with
    | .ok ⟨_, _, .file bytes⟩ => .ok (Octets.ofBytes bytes)
    | .ok _ => .error .isDirectory
    | .error o => .error o

/-- The place of a file to write to, which is made if it is missing. -/
def filePlace (m : Machine) (name : Octets) : Except Disk.Obstacle (Machine × List FileName) :=
  match m.arrive name, Octets.toText? name with
  | .ok ⟨_, place, .file _⟩, _ => .ok (m, place)
  | .ok _, _ => .error .isDirectory
  | .error .missing, some (c :: text) =>
    let parts := Path.toFollow m.here (c :: text)
    match m.disk.arrive parts.dropLast, parts.getLast? with
    | .ok ⟨_, place, .directory⟩, some last =>
      if last = [] then .error .isDirectory
      else
        let place := place ++ [last]
        .ok ({ m with disk := m.disk.put place (.file []) }, place)
    | .error o, _ => .error o
    | _, _ => .error .notDirectory
  | .error o, _ => .error o

def targetReason : Disk.Obstacle → String
  | .missing => "Directory nonexistent"
  | .notDirectory => "Directory nonexistent"
  | o => o.text

def sourceReason : Disk.Obstacle → String
  | .missing => "No such file"
  | .notDirectory => "No such file"
  | o => o.text

/-- Opens a file to write to it, empty unless it is to be added to. -/
def openFile (m : Machine) (name : Octets) (adding : Bool) :
    Except Fault (Machine × Channel) :=
  if name = "/dev/stdout".toList then .ok (m, (m.streams.channel? 1).getD .nowhere)
  else if name = "/dev/stderr".toList then .ok (m, (m.streams.channel? 2).getD .nowhere)
  else match m.filePlace name with
    | .ok (m, place) =>
      if place = System.nullPlace then .ok (m, .nowhere)
      else .ok (if adding then m else m.put place (.file []), .file place)
    | .error o => .error (.noTarget name (targetReason o).toList)

/-- The shell starts on commands of its own. -/
def branch (m : Machine) : Machine :=
  { m with traps := m.traps.filter fun t => t.2.isEmpty
           firstTraps := some (m.firstTraps.getD m.traps) }

/-- What a shell of its own leaves to the one around it: the disk, what it read and wrote and its
status, but nothing else that it changed, nor its end unless that is the end of all. -/
def leave (inner outer : Machine) : Machine :=
  { outer with
    disk := inner.disk
    sources := inner.sources.take outer.sources.length
    output := inner.output
    errors := inner.errors
    pipes := inner.pipes
    pending := inner.pending
    doom := if outer.firstTraps.isSome then inner.doom else none
    status := match inner.departure with
      | some (.exited status) => status % 256
      | _ => inner.status % 256
    departure := match outer.firstTraps, inner.doom with
      | none, some signal => some (.killed signal)
      | _, _ => outer.departure }

/-- Runs `body` with a fresh pipe; what was written to it is the second result. -/
def collect (m : Machine) (body : Channel → Machine → Machine) : Machine × Octets :=
  let index := m.pipes.length
  let after := body (.pipe index) { m with pipes := m.pipes ++ [[]] }
  ({ after with pipes := after.pipes.take index, streams := m.streams, tested := m.tested },
    after.pipes.getD index [])

end Machine

/-- A command of the shell or a program: what its arguments make of the state. -/
abbrev Program := List Octets → Machine → Machine

end LintDispatch.Shell
