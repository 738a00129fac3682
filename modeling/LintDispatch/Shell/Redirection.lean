import LintDispatch.Shell.Value

/-!
Connecting streams to files and to each other. A stream that is redirected for one command is
connected as before when the command has ended.
-/

namespace LintDispatch.Shell

def Redirect.stream : Redirect → Nat
  | .write stream _ _ => stream
  | .append stream _ => stream
  | .read stream _ => stream
  | .update stream _ => stream
  | .copy stream _ => stream
  | .here stream _ => stream

namespace Machine

/-- A state, and whether a redirection failed on the way to it. -/
abbrev Connected := Machine × Bool

def misconnect (m : Machine) (fault : Fault) : Connected :=
  (m.complain fault 2, true)

def connect (m : Machine) (stream : Nat) (channel : Channel) : Connected :=
  ({ m with streams := m.streams.lead stream channel }, false)

def connectTo (m : Machine) (stream : Nat) (name : Octets) (adding : Bool) : Connected :=
  match m.openFile name adding with
  | .ok (m, channel) => m.connect stream channel
  | .error fault => m.misconnect fault

/-- As `connectTo`; with the option for it, no file that is there is written over. -/
def connectToNew (m : Machine) (stream : Nat) (name : Octets) (forced : Bool) : Connected :=
  let isThere := match m.arrive name with
    | .ok ⟨_, place, .file _⟩ => place != System.nullPlace
    | _ => false
  if m.options.contains 'C' && !forced && isThere then
    m.misconnect (.noTarget name "File exists".toList)
  else m.connectTo stream name false

def connectFrom (m : Machine) (stream : Nat) (name : Octets) : Connected :=
  if name = "/dev/stdin".toList then m.connect stream ((m.streams.channel? 0).getD .nowhere)
  else match m.arrive name with
    | .ok ⟨_, place, .file bytes⟩ =>
      (m.supply stream ⟨Octets.ofBytes bytes, place != System.nullPlace⟩, false)
    | .ok _ => m.connect stream .directory
    | .error o => m.misconnect (.noSource name (sourceReason o).toList)

/-- Reads a stream from a file, or leads it there, where the file is made if it is missing. -/
def connectBoth (m : Machine) (stream : Nat) (name : Octets) : Connected :=
  match m.filePlace name with
  | .ok (m, _) => if stream = 0 then m.connectFrom 0 name else m.connectTo stream name true
  | .error o => m.misconnect (.noTarget name (targetReason o).toList)

/-- Connects a stream to what another one, given by its number, is connected to. -/
def connectAs (m : Machine) (stream : Nat) (name : Octets) : Connected :=
  if name = ['-'] then ({ m with streams := m.streams.close stream }, false)
  else match Octets.natural? name with
    | none => (m.abort (.problem "Syntax error: Bad fd number".toList), true)
    | some other =>
      match m.streams.channel? other with
      | some channel => m.connect stream channel
      | none => m.misconnect (.badStream name)

/-- Drops the sources beyond the first `count`, unless one of them may still be read. -/
def dropSources (m : Machine) (count : Nat) : Machine :=
  let isKept (s : Nat × Channel) : Bool := match s.2 with
    | .source index => index < count
    | _ => true
  if m.streams.all isKept then { m with sources := m.sources.take count } else m

/-- Connects the streams of redirections as they were in `before`. -/
def reconnect (m before : Machine) (redirects : List Redirect) : Machine :=
  let streams := redirects.foldl (fun streams r =>
    match before.streams.channel? r.stream with
    | some channel => streams.lead r.stream channel
    | none => streams.close r.stream) m.streams
  ({ m with streams } : Machine).dropSources before.sources.length

end Machine

end LintDispatch.Shell
