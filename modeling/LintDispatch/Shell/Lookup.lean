import LintDispatch.Shell.Program.Columns
import LintDispatch.Shell.Program.Dump
import LintDispatch.Shell.Program.Edit
import LintDispatch.Shell.Program.Nested
import LintDispatch.Shell.Program.Order
import LintDispatch.Shell.Program.Plain
import LintDispatch.Shell.Program.Search
import LintDispatch.Shell.Value

/-!
What the name of a command stands for: a word of the grammar, a function, a command of the shell
itself, or a program in one of the directories that are searched.
-/

namespace LintDispatch.Shell

namespace Program

def defaultPath : String :=
  "/usr/local/sbin:/usr/local/bin:/usr/sbin:/usr/bin:/sbin:/bin"

def directories : List String := ["/usr/bin", "/bin"]

/-- Programs that run other commands or look for them. -/
def running : List String := ["sh", "dash", "env", "xargs", "find", "which"]

def all : List (String × Program) :=
  filePrograms ++ linePrograms ++ orderPrograms ++ columnPrograms ++ searchPrograms
    ++ Edit.editPrograms ++ plainPrograms ++ dumpPrograms

def names : List String :=
  running ++ all.map Prod.fst

def exists? (name : Octets) : Bool :=
  running.contains (String.ofList name) || (all.lookup (String.ofList name)).isSome

end Program

inductive Whereabouts where
  | program (name path : Octets)
  | denied
  | missing
  deriving DecidableEq, Repr

namespace Machine

def whereaboutsAt (m : Machine) (path : Octets) : Whereabouts :=
  let name := (path.reverse.takeWhile (· != '/')).reverse
  let directory := ((path.reverse.dropWhile (· != '/')).dropWhile (· = '/')).reverse
  if Program.directories.contains (String.ofList directory) && Program.exists? name then
    .program name path
  else match m.arrive path with
    | .ok _ => .denied
    | .error _ => .missing

/-- Looks for a program, in the directories of the search path unless its name has a slash. -/
def whereabouts (m : Machine) (name : Octets) : Whereabouts :=
  if name.contains '/' then m.whereaboutsAt name
  else if name.isEmpty then .missing
  else
    let directories := match m.value? "PATH".toList with
      | some path => Text.splitAt ':' path
      | none => Text.splitAt ':' Program.defaultPath.toList
    let tries := directories.map fun d =>
      m.whereaboutsAt (if d.isEmpty then name else d ++ '/' :: name)
    let isProgram (w : Whereabouts) : Bool := match w with
      | .program _ _ => true
      | _ => false
    match tries.find? isProgram with
    | some w => w
    | none =>
      let isFile (d : Octets) : Bool :=
        match m.arrive (if d.isEmpty then name else d ++ '/' :: name) with
        | .ok a => a.entry != .directory
        | .error _ => false
      if directories.any isFile then .denied else .missing

def remember (m : Machine) (name : Octets) : Machine :=
  if name.contains '/' || m.known.contains name then m else { m with known := name :: m.known }

end Machine

inductive Meaning where
  | keyword
  | alias (text : Octets)
  | function
  | special
  | builtin
  | program (path : Octets)
  | nothing
  deriving DecidableEq, Repr

namespace Meaning

def of (m : Machine) (name : Octets) : Meaning :=
  if name = ['i', 'n'] || Reader.reservedWords.contains (String.ofList name) then .keyword
  else if let some text := m.aliases.lookup name then .alias text
  else if Builtin.isBuiltin name && Builtin.isSpecial name then .special
  else if m.functions.any fun f => f.1 == name then .function
  else if Builtin.isBuiltin name then .builtin
  else match m.whereabouts name with
    | .program _ path => .program path
    | _ => .nothing

def description (m : Machine) (name : Octets) : Meaning → Octets
  | .keyword => name ++ " is a shell keyword".toList
  | .alias text => name ++ " is an alias for ".toList ++ text
  | .function => name ++ " is a shell function".toList
  | .special => name ++ " is a special shell builtin".toList
  | .builtin => name ++ " is a shell builtin".toList
  | .program path =>
    name ++ (if m.known.contains name then " is a tracked alias for ".toList else " is ".toList)
      ++ path
  | .nothing => name ++ ": not found".toList

/-- How the name would be called, if it stands for anything. -/
def call? (name : Octets) : Meaning → Option Octets
  | .program path => some path
  | .alias text => some ("alias ".toList ++ name ++ '=' :: Builtin.quoted text)
  | .nothing => none
  | _ => some name

end Meaning

def describeAll (names : List Octets) (m : Machine) : Machine :=
  names.foldl (fun m name =>
    let meaning := Meaning.of m name
    let m := m.say 1 (meaning.description m name ++ ['\n'])
    match meaning with
    | .nothing => { m with status := 127 }
    | .program _ => m.remember name
    | _ => m) { m with status := 0 }

/-- Says how the first name would be called. -/
def locate (names : List Octets) (m : Machine) : Machine :=
  match names.head? with
  | none => { m with status := 0 }
  | some name =>
    let meaning := Meaning.of m name
    match meaning, meaning.call? name with
    | _, none => { m with status := 127 }
    | .program _, some text => { (m.say 1 (text ++ ['\n'])).remember name with status := 0 }
    | _, some text => { m.say 1 (text ++ ['\n']) with status := 0 }

/-- Says where the programs are that have these names; all of them have to be there. -/
def sayPlaces (names : List Octets) (m : Machine) : Machine :=
  names.foldl (fun m name =>
    match m.whereabouts name with
    | .program _ path => m.say 1 (path ++ ['\n'])
    | _ => { m with status := 1 }) { m with status := if names.isEmpty then 1 else 0 }

/-- The shelf on which the place of a program is kept. -/
def shelf (name : Octets) : Nat :=
  (name.foldl (fun n c => n + c.toNat) (16 * (name.headD '\x00').toNat)) % 32768 % 31

/-- Looks for programs and remembers them, forgets all that were found, or shows them in the order
of their shelves. -/
def rehash (args : List Octets) (m : Machine) : Machine :=
  match args with
  | [] =>
    let onShelf (n : Nat) : List Octets := m.known.reverse.filter fun name => shelf name = n
    let path (name : Octets) : Octets := match m.whereabouts name with
      | .program _ path => path ++ ['\n']
      | _ => []
    { m.say 1 (((List.range 31).flatMap onShelf).flatMap path) with status := 0 }
  | ['-', 'r'] :: _ => { m with known := [], status := 0 }
  | ('-' :: c :: _) :: _ => m.complainFor "hash" ("Illegal option -".toList ++ [c]) 2
  | names =>
    names.foldl (fun m name =>
      match Meaning.of m name with
      | .program _ => m.remember name
      | .nothing | .keyword | .alias _ =>
        m.complainFor "hash" (name ++ ": not found".toList) 1
      | _ => m) { m with status := 0 }

end LintDispatch.Shell
