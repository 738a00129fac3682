import LintDispatch.Disk.Tree
import LintDispatch.Text.Utf8

/-!
Listings of a tree, as text. A line is a path: with a slash behind it a directory, with an arrow and
a target a symbolic link, and otherwise a file. The lines of a file stand below its path, two spaces
further in.
-/

namespace LintDispatch.Disk.Listing

def margin : List Char := [' ', ' ']

def arrow : List Char := " -> ".toList

/-- The text before the arrow and the text behind it. -/
def splitArrow? : List Char → Option (List Char × List Char)
  | [] => none
  | c :: rest =>
    if arrow.isPrefixOf (c :: rest) then some ([], rest.drop (arrow.length - 1))
    else (splitArrow? rest).map fun s => (c :: s.1, s.2)

/-- The path that a line names and what lies there. -/
def entry (line : List Char) (content : List (List Char)) : List Char × Entry :=
  match splitArrow? line with
  | some (path, target) => (path, .link target)
  | none =>
    if line.getLast? = some '/' then (line.dropLast, .directory)
    else (line, .file (Text.encodeUtf8 (content.flatMap fun l => l ++ ['\n'])))

/-- What was read of a listing from its end: entries, and the content lines of the one before. -/
structure Reading where
  content : List (List Char)
  entries : List (List Char × Entry)

def readLine (line : List Char) (r : Reading) : Reading :=
  if margin.isPrefixOf line then { r with content := line.drop margin.length :: r.content }
  else if line.isEmpty then r
  else ⟨[], entry line r.content :: r.entries⟩

def entries (lines : List (List Char)) : List (List Char × Entry) :=
  (lines.foldr readLine ⟨[], []⟩).entries

/-- The disk with the listed tree in the directory `here`. -/
def disk (here : Path) (lines : List (List Char)) : Disk :=
  (entries lines).foldl (fun disk e => disk.write (here.names ++ Path.components e.1) e.2)
    (Disk.empty.makeWay [] here.names).1

end LintDispatch.Disk.Listing
