import LintDispatch.Child
import LintDispatch.Disk.Listing
import LintDispatch.Session

/-!
The command line. The arguments are those of a session; the tree that it works on is read from the
standard input as a listing, and what the session says goes to the standard output.
-/

namespace LintDispatch

/-- Where the listed tree lies. -/
def workplace : Path := .ofAbsolute "/project".toList

def readLines (input : IO.FS.Stream) : Nat → IO (List (List Char))
  | 0 => return []
  | n + 1 => do
    let line ← input.getLine
    if line.isEmpty then return []
    let rest ← readLines input n
    return line.toList.filter (· != '\n') :: rest

end LintDispatch

open LintDispatch in
def main (arguments : List String) : IO UInt32 := do
  let lines ← readLines (← IO.getStdin) 1000000
  let host : Session.Host Child.Error := {
    here := workplace
    clock := []
    source := .ofChild workplace (String.ofList workplace.text)
    runner := .ofChild workplace
    report := Child.Error.report }
  let ended := Session.run host none arguments (Disk.Listing.disk workplace lines)
  (← IO.getStdout).putStr ended.transcript.output
  return UInt32.ofNat ended.status
