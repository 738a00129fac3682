import LintDispatch.Disk.Path

/-!
The state of a file system: which names hold a directory, a file with its bytes, or a symbolic link
with its target. The root is always a directory. Following a path goes through the links it meets,
at most forty of them.
-/

namespace LintDispatch

inductive Entry where
  | directory
  | file (bytes : List UInt8)
  | link (target : List Char)
  deriving DecidableEq, Repr, Inhabited

structure Disk where
  entries : List (List FileName × Entry)
  plain : ∀ e ∈ entries, ∀ name ∈ e.1, Path.IsPlain name
  deriving Repr

namespace Disk

def empty : Disk := ⟨[], by simp⟩

instance : Inhabited Disk := ⟨empty⟩

/-- The disk with those of the entries whose names are plain. -/
def ofEntries (entries : List (List FileName × Entry)) : Disk where
  entries := entries.filter fun e => ∀ name ∈ e.1, Path.IsPlain name
  plain e h := by simpa using (List.mem_filter.mp h).2

def entryAt? (disk : Disk) (place : List FileName) : Option Entry :=
  if place.isEmpty then some .directory
  else (disk.entries.find? fun e => e.1 == place).map Prod.snd

/-- The only name of `place` below `directory`, if it has exactly one. -/
def nameIn? (directory place : List FileName) : Option FileName :=
  if directory.isPrefixOf place then
    match place.drop directory.length with
    | [name] => some name
    | _ => none
  else none

def names (disk : Disk) (directory : List FileName) : List FileName :=
  disk.entries.filterMap fun e => nameIn? directory e.1

/-- Why a path does not lead where it should. -/
inductive Obstacle where
  | missing
  | notDirectory
  | isDirectory
  | nameTooLong
  | tooManyLinks
  deriving DecidableEq, Repr

/-- Where a path leads: the place, its entry, and how many links may still be followed. -/
structure Arrival where
  links : Nat
  place : List FileName
  entry : Entry
  deriving Repr

/-- The size of a name or path in bytes. -/
def size (s : List Char) : Nat :=
  s.foldl (fun n c => n + c.utf8Size) 0

def maxNameSize : Nat := 255

def maxPathSize : Nat := 4095

/-- Follows the components `todo` from the directory at `place`; `jump` goes on behind a link. -/
def walk (disk : Disk) (links : Nat)
    (jump : List FileName → List FileName → Except Obstacle Arrival) :
    List FileName → List FileName → Except Obstacle Arrival
  | place, [] => .ok ⟨links, place, .directory⟩
  | place, part :: todo =>
    if part = [] ∨ part = Path.dot then walk disk links jump place todo
    else if part = Path.dotDot then walk disk links jump place.dropLast todo
    else if maxNameSize < size part then .error .nameTooLong
    else
      match disk.entryAt? (place ++ [part]) with
      | none => .error .missing
      | some .directory => walk disk links jump (place ++ [part]) todo
      | some (.file bytes) =>
        if todo.isEmpty then .ok ⟨links, place ++ [part], .file bytes⟩ else .error .notDirectory
      | some (.link target) =>
        jump (if Path.isAbsolute target then [] else place) (Path.components target ++ todo)

/-- Follows the components `todo` from the directory at `place`, through at most `links` links. -/
def follow (disk : Disk) : Nat → List FileName → List FileName → Except Obstacle Arrival
  | 0 => walk disk 0 fun _ _ => .error .tooManyLinks
  | links + 1 => walk disk (links + 1) (follow disk links)

def maxLinks : Nat := 40

def arrive (disk : Disk) (parts : List FileName) : Except Obstacle Arrival :=
  disk.follow maxLinks [] parts

/-- Where a path leads that is written as `s`, seen from `here`. -/
def arriveAt (disk : Disk) (here : Path) (s : List Char) : Except Obstacle Arrival :=
  if maxPathSize < size s then .error .nameTooLong else disk.arrive (Path.toFollow here s)

def isFile (disk : Disk) (parts : List FileName) : Bool :=
  match disk.arrive parts with
  | .ok ⟨_, _, .file _⟩ => true
  | _ => false

def isDirectory (disk : Disk) (parts : List FileName) : Bool :=
  match disk.arrive parts with
  | .ok ⟨_, _, .directory⟩ => true
  | _ => false

/-- Puts an entry at a place whose names are plain; nothing can lie at another. -/
def put (disk : Disk) (place : List FileName) (entry : Entry) : Disk :=
  if h : ∀ name ∈ place, Path.IsPlain name then
    { entries := disk.entries.filter (fun e => e.1 != place) ++ [(place, entry)]
      plain := fun e he => by
        rcases List.mem_append.mp he with he | he
        · exact disk.plain e (List.mem_filter.mp he).1
        · simpa [List.mem_singleton.mp he] using h }
  else disk

/-- Makes the directories on the way that are missing; the place where the way ends. -/
def makeWay (disk : Disk) (place : List FileName) : List FileName → Disk × List FileName
  | [] => (disk, place)
  | part :: todo =>
    match disk.follow maxLinks place [part] with
    | .ok arrival => makeWay disk arrival.place todo
    | .error _ => makeWay (disk.put (place ++ [part]) .directory) (place ++ [part]) todo

/-- Writes an entry, with the directories above it. What is written over a link goes where the link
leads, and a directory that is there already stays as it is. -/
def write (disk : Disk) (parts : List FileName) (entry : Entry) : Disk :=
  let (disk, directory) := disk.makeWay [] parts.dropLast
  match parts.getLast? with
  | none => disk
  | some name =>
    match entry, disk.follow maxLinks directory [name] with
    | .directory, .ok ⟨_, _, .directory⟩ => disk
    | .file _, .ok ⟨_, place, .file _⟩ => disk.put place entry
    | _, _ => disk.put (directory ++ [name]) entry

/-- Removes an entry and everything below it; a link goes, not what it leads to. -/
def remove (disk : Disk) (parts : List FileName) : Disk :=
  match disk.arrive parts.dropLast, parts.getLast? with
  | .ok ⟨_, directory, _⟩, some name =>
    { entries := disk.entries.filter fun e => !(directory ++ [name]).isPrefixOf e.1
      plain := fun e he => disk.plain e (List.mem_filter.mp he).1 }
  | _, _ => disk

end Disk

end LintDispatch
