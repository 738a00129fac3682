import LintDispatch.Console.Elapsed
import LintDispatch.Console.Verbatim

/-!
The transcript of a run: everything that happened, in order. An event is a text that was said on
some channel, a query for what changed against a reference within scopes, a command that was executed together with what the command
printed, or a failure that was reported or traced. Debug and timing texts have channels of their
own, so what debugging adds can be told apart.
-/

namespace LintDispatch

inductive Channel where
  | plain
  | debug
  | timing
  deriving DecidableEq, Repr

inductive Event where
  | said (channel : Channel) (text : String)
  | queried (reference : String) (scopes : List String)
  | ran (command : String) (output : String)
  | reported (failure : Report)
  | traced (kind : String)
  deriving DecidableEq, Repr

abbrev Transcript := List Event

/-- A trace is shown by its mark alone. -/
def traceMark : String := "<traceback>"

def Event.text : Event → String
  | .said _ text => text
  | .queried .. => ""
  | .ran _ output => output
  | .reported failure => Console.verbatim failure.text ++ "\n"
  | .traced _ => traceMark ++ "\n"

/-- The texts of a transcript, one after the other. -/
def Transcript.output (t : Transcript) : String :=
  String.join (t.map Event.text)

def Transcript.commands (t : Transcript) : List String :=
  t.filterMap fun
    | .ran command _ => some command
    | _ => none

/-- The queries for changed files, in order: the reference and the scopes of each. -/
def Transcript.queries (t : Transcript) : List (String × List String) :=
  t.filterMap fun
    | .queried reference scopes => some (reference, scopes)
    | _ => none

def Transcript.traces (t : Transcript) : List String :=
  t.filterMap fun
    | .traced kind => some kind
    | _ => none

def Transcript.plain (t : Transcript) : List String :=
  t.filterMap fun
    | .said .plain text => some text
    | _ => none

theorem Transcript.output_append (t u : Transcript) :
    Transcript.output (t ++ u) = Transcript.output t ++ Transcript.output u := by
  simp [output, String.join_append]

@[simp] theorem Transcript.commands_append (t u : Transcript) :
    Transcript.commands (t ++ u) = Transcript.commands t ++ Transcript.commands u := by
  simp [commands]

@[simp] theorem Transcript.queries_append (t u : Transcript) :
    Transcript.queries (t ++ u) = Transcript.queries t ++ Transcript.queries u := by
  simp [queries]

namespace Console

def debugMessage (message : String) : String :=
  "[DEBUG] " ++ message

def timingWidth : Nat := 30

/-- Pads with spaces on the right to at least `width` characters. -/
def padRight (width : Nat) (s : String) : String :=
  s ++ String.ofList (List.replicate (width - s.length) ' ')

def timingStart (message : String) : String :=
  debugMessage (padRight timingWidth (message ++ "..."))

def timingFinish (milliseconds : Double) : String :=
  " (" ++ milliseconds.text ++ " ms)"

/-- Says `message` without ending the line. -/
def write (message : String) : Transcript :=
  [.said .plain (verbatim message)]

/-- Says `message` as a line of its own. -/
def echo (message : String) : Transcript :=
  [.said .plain (verbatim message ++ "\n")]

/-- A debug line, which is said only when debugging is on. -/
def debug (debugging : Bool) (message : String) : Transcript :=
  if debugging then [.said .debug (verbatim (debugMessage message) ++ "\n")] else []

@[simp] theorem commands_echo (message : String) :
    Transcript.commands (echo message) = [] := rfl

@[simp] theorem queries_echo (message : String) :
    Transcript.queries (echo message) = [] := rfl

@[simp] theorem commands_debug (debugging : Bool) (message : String) :
    Transcript.commands (debug debugging message) = [] := by
  cases debugging <;> rfl

end Console

/-- The readings that a clock will still give; when they are used up it stands at zero. -/
abbrev Clock := List Seconds

def Clock.read : Clock → Seconds × Clock
  | [] => (.real (.zero false), [])
  | t :: rest => (t, rest)

structure Timed (α : Type) where
  clock : Clock
  transcript : Transcript
  result : α

/-- Runs `work` and, when debugging is on, says how long it took. A failure of the work leaves the
line unfinished, and so does a duration that cannot be shown. -/
def Console.timed {α ε : Type} (debugging : Bool) (clock : Clock) (message : String)
    (ofError : Seconds.Error → ε) (work : Transcript × Except ε α) : Timed (Except ε α) :=
  if debugging then
    let opening : Transcript := [.said .timing (verbatim (timingStart message))]
    let (start, clock) := clock.read
    match work.2 with
    | .error e => ⟨clock, opening ++ work.1, .error e⟩
    | .ok value =>
      let (stop, clock) := clock.read
      match (stop.since start).bind Seconds.milliseconds with
      | .error e => ⟨clock, opening ++ work.1, .error (ofError e)⟩
      | .ok ms =>
        let closing : Transcript := [.said .timing (verbatim (timingFinish ms) ++ "\n")]
        ⟨clock, opening ++ work.1 ++ closing, .ok value⟩
  else ⟨clock, work.1, work.2⟩

end LintDispatch
